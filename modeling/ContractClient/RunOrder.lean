/-
This file sorts by runs. A list is cut into stretches that rise or fall; short ones are lengthened
by inserting what follows them, and neighbouring runs are merged until one is left.

Where the comparison puts the items in order, this is one more way to the ordered list. Where it
does not, since some items come neither before nor behind others, the result depends on every
comparison that is made. This file settles which ones are made.
-/

namespace ContractClient

/-! ### Runs -/

/-- The beginning of a list in which every item follows the one before it in the given way, where
`last` stands in front of the list, and the rest of the list. -/
def splitRun {α : Type} (follows : α → α → Bool) (last : α) : List α → List α × List α
  | [] => ([], [])
  | first :: rest =>
    if follows last first then
      let (run, others) := splitRun follows first rest
      (first :: run, others)
    else ([], first :: rest)

/-- The items from the first on that rise, or that fall, which are turned round; and the rest. -/
def firstRun {α : Type} (before : α → α → Bool) : List α → List α × List α
  | first :: second :: rest =>
    if before second first then
      let (run, others) := splitRun (fun left right => before right left) second rest
      ((first :: second :: run).reverse, others)
    else
      let (run, others) := splitRun (fun left right => !before right left) second rest
      (first :: second :: run, others)
  | items => (items, [])

/-- The list with one more item, whose place is searched in the first half of the list if it comes
before the item in the middle, and in the second half if it does not. -/
def insertHalving {α : Type} (before : α → α → Bool) (item : α) (items : List α) : List α :=
  match _halves : items.drop (items.length / 2) with
  | [] => [item]
  | middle :: behind =>
    let front := items.take (items.length / 2)
    if before item middle then insertHalving before item front ++ middle :: behind
    else front ++ middle :: insertHalving before item behind
termination_by items.length
decreasing_by
  all_goals
    have lengths := congrArg List.length _halves
    rw [List.length_drop, List.length_cons] at lengths
  · exact Nat.lt_of_le_of_lt (List.length_take_le _ items) (by omega)
  · omega

/-- A size of 64 or more halved, and halved again, until it is less; one is added if a half was
rounded down on the way. -/
def halvedSize (rounded : Bool) (size : Nat) : Nat :=
  if 64 ≤ size then halvedSize (rounded || size % 2 == 1) (size / 2)
  else if rounded then size + 1
  else size
termination_by size
decreasing_by omega

/-- The least length of the runs of a list of the given size. -/
def leastRun (size : Nat) : Nat :=
  halvedSize false size

/-- The first run of a list, lengthened to the least length if it is shorter; and the rest. -/
def longRun {α : Type} (before : α → α → Bool) (least : Nat) (items : List α) :
    List α × List α :=
  let (run, others) := firstRun before items
  let missing := least - run.length
  ((others.take missing).foldl (fun sorted item => insertHalving before item sorted) run,
    others.drop missing)

/-! ### Leaps -/

/-- Two places that a search by growing leaps ends between: the last one that is passed, and the
one behind which nothing is passed. -/
def leap (stops : Nat → Bool) (size : Nat) : Nat → Nat → Nat → Nat × Nat
  | 0, last, next => (last, min next size)
  | steps + 1, last, next =>
    if next < size && !stops next then leap stops size steps next (2 * next + 1)
    else (last, min next size)

/-- The place between two others where a search by halving stops. Of two middle places it looks at
the upper one, or at the lower one if so wished. -/
def halve (lower : Bool) (stops : Nat → Bool) : Nat → Nat → Nat → Nat
  | 0, low, _ => low
  | steps + 1, low, high =>
    if low < high then
      let middle := low + (if lower then high - low - 1 else high - low) / 2
      if stops middle then halve lower stops steps low middle
      else halve lower stops steps (middle + 1) high
    else low

/-- How many items at the start of a list are passed before one stops the search. -/
def passedCount {α : Type} (lower : Bool) (stops : α → Bool) (items : List α) : Nat :=
  let stopsAt (place : Nat) := items[place]?.any stops
  if stopsAt 0 then 0
  else
    let (last, next) := leap stopsAt items.length items.length 0 1
    halve lower stopsAt items.length (last + 1) next

/-! ### Merging -/

/-- The number of items passed at once from which on leaping is worth while. -/
def worthwhileLeap : Nat := 7

/-- A merge on its way: what is left of the run that is held apart and of the other one, what is
merged already, the latest first, and how often one run must win before leaps are tried. -/
structure Merge (α : Type) where
  held : List α
  other : List α
  merged : List α
  patience : Nat

namespace Merge

/-- Whether nothing is left to compare: the last of the held items belongs behind all others. -/
def isOver {α : Type} (merge : Merge α) : Bool :=
  merge.held.length ≤ 1 || merge.other.isEmpty

/-- Merges the given number of held items. -/
def takeHeld {α : Type} (merge : Merge α) (count : Nat) : Merge α :=
  { merge with
    held := merge.held.drop count
    merged := (merge.held.take count).reverse ++ merge.merged }

/-- Merges the given number of the other items. -/
def takeOther {α : Type} (merge : Merge α) (count : Nat) : Merge α :=
  { merge with
    other := merge.other.drop count
    merged := (merge.other.take count).reverse ++ merge.merged }

/-- Leaps over the held items in front of the first of the others, and takes that one too. -/
def leapHeld {α : Type} (before : α → α → Bool) (lower : Bool) (merge : Merge α) :
    Merge α × Nat :=
  match merge.isOver, merge.other with
  | false, key :: _ =>
    let count := passedCount lower (before key) merge.held
    let passed := merge.takeHeld count
    (if passed.isOver then passed else passed.takeOther 1, count)
  | _, _ => (merge, 0)

/-- Leaps over the other items in front of the first of the held ones, and takes that one too. -/
def leapOther {α : Type} (before : α → α → Bool) (lower : Bool) (merge : Merge α) :
    Merge α × Nat :=
  match merge.isOver, merge.held with
  | false, key :: _ =>
    let count := passedCount lower (fun item => !before item key) merge.other
    let passed := merge.takeOther count
    (if passed.isOver then passed else passed.takeHeld 1, count)
  | _, _ => (merge, 0)

/-- Leaps over both runs, over the held one first or last; and whether a leap was worth while. -/
def leapBoth {α : Type} (before : α → α → Bool) (backwards : Bool) (merge : Merge α) :
    Merge α × Bool :=
  let merge := { merge with patience := max 1 (merge.patience - 1) }
  let (merge, first) :=
    if backwards then merge.leapOther before true else merge.leapHeld before false
  let (merge, second) :=
    if backwards then merge.leapHeld before true else merge.leapOther before false
  (merge, decide (worthwhileLeap ≤ first) || decide (worthwhileLeap ≤ second))

/-- Goes on with a merge to its end. One item is taken after the other until a run has won often
enough in a row; then whole stretches are leapt over for as long as that is worth while. -/
def finish {α : Type} (before : α → α → Bool) (backwards : Bool) :
    Nat → Bool → Nat → Nat → Merge α → Merge α
  | 0, _, _, _, merge => merge
  | steps + 1, leaping, heldWins, otherWins, merge =>
    if merge.isOver then merge
    else if leaping then
      let (merge, worthwhile) := merge.leapBoth before backwards
      if merge.isOver then merge
      else if worthwhile then merge.finish before backwards steps true 0 0
      else { merge with patience := merge.patience + 1 }.finish before backwards steps false 0 0
    else
      let otherComes := match merge.other, merge.held with
        | other :: _, held :: _ => before other held
        | _, _ => false
      let wins := if otherComes then otherWins + 1 else heldWins + 1
      let taken := if otherComes then merge.takeOther 1 else merge.takeHeld 1
      if taken.isOver then taken
      else if merge.patience ≤ wins then
        { taken with patience := taken.patience + 1 }.finish before backwards steps true 0 0
      else
        taken.finish before backwards steps false (if otherComes then 0 else wins)
          (if otherComes then wins else 0)

/-- All items of a merge that is over. -/
def items {α : Type} (merge : Merge α) : List α :=
  merge.merged.reverse ++ merge.other ++ merge.held

/-- Merges two runs, the first item of the other one first. -/
def run {α : Type} (before : α → α → Bool) (backwards : Bool) (patience : Nat)
    (held other : List α) : Merge α :=
  (Merge.takeOther ⟨held, other, [], patience⟩ 1).finish before backwards
    (held.length + other.length) false 0 0

end Merge

/-- Two neighbouring runs in one, and the patience that is left. What stands in its place already,
at the start of the left run and at the end of the right one, stays there; of the rest the shorter
run is held apart, and merging goes forwards for a left run and backwards for a right one. -/
def mergeRuns {α : Type} (before : α → α → Bool) (patience : Nat) (left right : List α) :
    List α × Nat :=
  match right.head?, left.getLast? with
  | some first, some last =>
    let front := passedCount false (before first) left
    let back := passedCount true (fun item => before item last) right.reverse
    let lower := left.drop front
    let upper := right.take (right.length - back)
    if lower.isEmpty || upper.isEmpty then (left ++ right, patience)
    else
      let frame (middle : List α) :=
        left.take front ++ middle ++ right.drop (right.length - back)
      if lower.length ≤ upper.length then
        let merge := Merge.run before false patience lower upper
        (frame merge.items, merge.patience)
      else
        let merge :=
          Merge.run (fun left right => before right left) true patience upper.reverse lower.reverse
        (frame merge.items.reverse, merge.patience)
  | _, _ => (left ++ right, patience)

/-! ### The order of merging -/

/-- A run that waits to be merged: where it starts, its items, and the power of the border behind
it. -/
structure WaitingRun (α : Type) where
  start : Nat
  items : List α
  power : Nat

/-- How many halvings of the list it takes until two points, given as twice their places, lie in
different parts. -/
def powerFrom (size : Nat) : Nat → Nat → Nat → Nat
  | 0, _, _ => 0
  | steps + 1, left, right =>
    if size ≤ left then powerFrom size steps (2 * (left - size)) (2 * (right - size)) + 1
    else if size ≤ right then 1
    else powerFrom size steps (2 * left) (2 * right) + 1

/-- The power of the border between a waiting run and one of the given length behind it, in a list
of the given size. -/
def borderPower {α : Type} (size : Nat) (run : WaitingRun α) (length : Nat) : Nat :=
  let middle := 2 * run.start + run.items.length
  powerFrom size size middle (middle + run.items.length + length)

/-- Merges the latest two runs for as long as the border between them has more than the given
power. The latest run stands first. -/
def mergeAbove {α : Type} (before : α → α → Bool) (power patience : Nat) :
    List (WaitingRun α) → List (WaitingRun α) × Nat
  | last :: previous :: rest =>
    if power < previous.power then
      let (items, patience) := mergeRuns before patience previous.items last.items
      mergeAbove before power patience ({ previous with items := items } :: rest)
    else (last :: previous :: rest, patience)
  | waiting => (waiting, patience)
termination_by waiting => waiting.length

/-- The waiting runs with one more behind them. -/
def addRun {α : Type} (before : α → α → Bool) (size patience : Nat)
    (waiting : List (WaitingRun α)) (start : Nat) (items : List α) :
    List (WaitingRun α) × Nat :=
  let run : WaitingRun α := ⟨start, items, 0⟩
  match waiting with
  | [] => ([run], patience)
  | latest :: _ =>
    let power := borderPower size latest items.length
    let (waiting, patience) := mergeAbove before power patience waiting
    match waiting with
    | [] => ([run], patience)
    | last :: rest => (run :: { last with power := power } :: rest, patience)

/-- Merges all waiting runs, the latest of which stands first. A run is merged with the shorter of
its neighbours. -/
def mergeAll {α : Type} (before : α → α → Bool) (patience : Nat) : List (WaitingRun α) → List α
  | [] => []
  | [run] => run.items
  | [last, previous] => (mergeRuns before patience previous.items last.items).1
  | last :: previous :: first :: rest =>
    if first.items.length < last.items.length then
      let (items, patience) := mergeRuns before patience first.items previous.items
      mergeAll before patience (last :: { first with items := items } :: rest)
    else
      let (items, patience) := mergeRuns before patience previous.items last.items
      mergeAll before patience ({ previous with items := items } :: first :: rest)
termination_by waiting => waiting.length

/-- Cuts what is left of a list into runs and adds them to the waiting ones, then merges all. -/
def sortFrom {α : Type} (before : α → α → Bool) (size : Nat) :
    Nat → Nat → Nat → List (WaitingRun α) → List α → List α
  | _, _, patience, waiting, [] => mergeAll before patience waiting
  | 0, _, patience, waiting, _ => mergeAll before patience waiting
  | steps + 1, start, patience, waiting, items =>
    let (run, others) := longRun before (leastRun size) items
    let (waiting, patience) := addRun before size patience waiting start run
    sortFrom before size steps (start + run.length) patience waiting others

/-- The items sorted by runs. -/
def inRunOrder {α : Type} (before : α → α → Bool) (items : List α) : List α :=
  sortFrom before items.length items.length 0 worthwhileLeap [] items

end ContractClient
