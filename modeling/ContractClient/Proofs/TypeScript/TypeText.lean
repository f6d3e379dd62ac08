/-
This file relates TypeScript types to their texts. A type is a name and a number of pairs of
brackets; its text can be read back, and only the brackets that a name has at its own end make a
difference (`Ty.ofText_text`, `Ty.text_ofText`). A name without an opening bracket is read back
as it is.
-/

import ContractClient.TypeScript.Basic

namespace ContractClient

/-! ### Brackets -/

@[simp] theorem bracketChars_zero : bracketChars 0 = [] := rfl

theorem bracketChars_add (first second : Nat) :
    bracketChars (first + second) = bracketChars first ++ bracketChars second := by
  simp only [bracketChars, ← List.replicate_append_replicate, List.flatten_append]

theorem reverse_bracketChars_succ (rank : Nat) :
    (bracketChars (rank + 1)).reverse = ']' :: '[' :: (bracketChars rank).reverse := by
  rw [bracketChars_add, List.reverse_append]
  rfl

/-- What comes off the end of a text and what is left make up the text. -/
theorem peelBrackets_append_bracketChars (backwards : List Char) :
    (peelBrackets backwards).1.reverse ++ bracketChars (peelBrackets backwards).2 =
      backwards.reverse := by
  fun_induction peelBrackets backwards with
  | case1 rest base rank peeled inductionHypothesis =>
    rw [peeled] at inductionHypothesis
    simp only at inductionHypothesis
    rw [bracketChars_add, ← List.append_assoc, inductionHypothesis, List.reverse_cons,
      List.reverse_cons, List.append_assoc]
    rfl
  | case2 backwards _ => simp

/-- Brackets that are put on come off again. -/
theorem peelBrackets_bracketChars_append (rank : Nat) (backwards : List Char) :
    peelBrackets ((bracketChars rank).reverse ++ backwards) =
      ((peelBrackets backwards).1, (peelBrackets backwards).2 + rank) := by
  induction rank with
  | zero => rfl
  | succ rank inductionHypothesis =>
    rw [reverse_bracketChars_succ]
    simp only [List.cons_append, peelBrackets, inductionHypothesis]
    rfl

theorem peelBrackets_of_not_mem {backwards : List Char} (plain : '[' ∉ backwards) :
    peelBrackets backwards = (backwards, 0) := by
  fun_cases peelBrackets backwards with
  | case1 rest => simp at plain
  | case2 => rfl

/-! ### Types and their texts -/

@[simp] theorem Ty.base_arrays (ty : Ty) (dimensions : Nat) :
    (ty.arrays dimensions).base = ty.base := rfl

@[simp] theorem Ty.rank_arrays (ty : Ty) (dimensions : Nat) :
    (ty.arrays dimensions).rank = ty.rank + dimensions := rfl

theorem Ty.arrays_arrays (ty : Ty) (first second : Nat) :
    (ty.arrays first).arrays second = ty.arrays (first + second) := by
  simp only [Ty.arrays, Nat.add_assoc]

theorem Ty.text_arrays (ty : Ty) (dimensions : Nat) :
    (ty.arrays dimensions).text = ty.text ++ String.ofList (bracketChars dimensions) := by
  simp only [Ty.arrays, Ty.text, bracketChars_add, String.ofList_append, String.append_assoc]

/-- The type that a text writes has that text. -/
theorem Ty.text_ofText (text : String) : (Ty.ofText text).text = text := by
  apply String.ext
  simp [Ty.ofText, Ty.text, peelBrackets_append_bracketChars]

/-- The text of a type writes that type, where the brackets that its name ends in count as the
others do. -/
theorem Ty.ofText_text (ty : Ty) : Ty.ofText ty.text = (Ty.ofText ty.base).arrays ty.rank := by
  simp [Ty.ofText, Ty.text, Ty.arrays, peelBrackets_bracketChars_append]

theorem Ty.ofText_of_not_mem {name : String} (plain : '[' ∉ name.toList) :
    Ty.ofText name = ⟨name, 0⟩ := by
  simp [Ty.ofText, peelBrackets_of_not_mem, plain]

/-- A type that a text writes, with more brackets behind it, is read back as it is. -/
theorem Ty.ofText_arrays_text (name : String) (dimensions : Nat) :
    Ty.ofText ((Ty.ofText name).arrays dimensions).text = (Ty.ofText name).arrays dimensions := by
  rw [Ty.ofText_text, Ty.base_arrays, Ty.rank_arrays, ← Ty.arrays_arrays, ← Ty.ofText_text,
    Ty.text_ofText]

/-! ### Primitive types -/

/-- The types of values that are no structs. -/
def primitiveNames : List String := ["boolean", "string", "bigint"]

theorem BaseType.primitive?_eq_some {base : BaseType} {ty : Ty}
    (primitive : base.primitive? = some ty) :
    ty.base ∈ primitiveNames ∧ ty.rank = 0 := by
  cases base with
  | tuple => cases primitive
  | _ =>
    obtain rfl := Option.some.inj primitive
    simp [primitiveNames, bigintName]

/-- Tuples alone have no primitive type. -/
theorem BaseType.primitive?_eq_none {base : BaseType} :
    base.primitive? = none ↔ base = .tuple := by
  cases base <;> simp [BaseType.primitive?]

end ContractClient
