import SortBench.Proofs.Sorting.Steps

/-!
# Scripts over an array

A script reads and writes the items of an array one by one, counts work, and ends with an answer or
an error. It addresses the items by integers: from the front, or, with negative ones, from the end.
An integer that addresses no item ends the run of a script with an error of its own.

What a script does next depends on the items that it has read, so a script is a tree. To say that it
keeps to some positions is to say so of all branches of the tree, whatever the items are. A run of a
script that keeps to the positions of the array, counted from the front, never meets the error.

Work may go uncounted. Then each step of a script that would count does nothing, and all other steps
are as they were.
-/

namespace SortBench.Sorting

/-- A program over an array that is addressed by integers. It is a tree of steps, so that what it
addresses can be stated and proved without running it. -/
inductive Script (α ε β : Type) where
  /-- End with an answer. -/
  | done (answer : β)
  /-- End with an error. -/
  | failed (error : ε)
  /-- Read the item at a position. -/
  | read (position : Int) (next : α → Script α ε β)
  /-- Write an item to a position. -/
  | write (position : Int) (item : α) (next : Script α ε β)
  /-- Count work. -/
  | count (change : Tally → Tally) (next : Script α ε β)

/-- Where an integer addresses an array of so many items: counted from the front, or from the end if
it is negative. An integer beyond either end addresses nothing. -/
def address? (n : Nat) (position : Int) : Option (Fin n) :=
  if front : 0 ≤ position ∧ position < n then some ⟨position.toNat, by omega⟩
  else if back : position < 0 ∧ 0 ≤ position + n then some ⟨(position + n).toNat, by omega⟩
  else none

theorem address?_natCast {n k : Nat} (inside : k < n) : address? n k = some ⟨k, inside⟩ := by
  rw [address?, dif_pos (by omega)]
  rfl

namespace Script

variable {α ε β γ : Type} {n : Nat}

/-- Go on from the answer of a script. -/
def bind (script : Script α ε β) (next : β → Script α ε γ) : Script α ε γ :=
  match script with
  | done answer => next answer
  | failed error => failed error
  | read position rest => read position fun item => (rest item).bind next
  | write position item rest => write position item (rest.bind next)
  | count change rest => count change (rest.bind next)

/-- Go on from an answer that may be refused. -/
def ask (asked : Except ε Bool) (next : Bool → Script α ε β) : Script α ε β :=
  match asked with
  | .ok answer => next answer
  | .error error => failed error

/-- Exchange the items at two positions: read both, then write both. -/
def exchange (a b : Int) (next : Script α ε β) : Script α ε β :=
  read b fun second => read a fun first => write a second (write b first next)

/-- Run a script on an array. The first error ends it; an address that is none is the error
`lost`. -/
def run (lost : ε) : Script α ε β → Vector α n → Tally → Outcome α ε β n
  | done answer, items, tally => .done items tally answer
  | failed error, items, tally => .failed items tally error
  | read position next, items, tally =>
    match address? n position with
    | some index => (next items[index]).run lost items tally
    | none => .failed items tally lost
  | write position item next, items, tally =>
    match address? n position with
    | some index => next.run lost (items.set index item) tally
    | none => .failed items tally lost
  | count change next, items, tally => next.run lost items (change tally)

/-- Run a script where work may go uncounted: a step that counts looks whether there is a tally, and
does nothing if there is none. -/
def track (lost : ε) :
    Script α ε β → Vector α n → Option Tally → Except ε β × Vector α n × Option Tally
  | done answer, items, tally => (.ok answer, items, tally)
  | failed error, items, tally => (.error error, items, tally)
  | read position next, items, tally =>
    match address? n position with
    | some index => (next items[index]).track lost items tally
    | none => (.error lost, items, tally)
  | write position item next, items, tally =>
    match address? n position with
    | some index => next.track lost (items.set index item) tally
    | none => (.error lost, items, tally)
  | count change next, items, tally =>
    match tally with
    | some tally => next.track lost items (some (change tally))
    | none => next.track lost items none

section Run

variable (lost : ε) (items : Vector α n) (tally : Tally)

/-- A script that goes on from another one runs after it, on the items and the tally that this one
left; if it fails, nothing follows. -/
theorem run_bind (script : Script α ε β) (next : β → Script α ε γ) :
    (script.bind next).run lost items tally =
      (script.run lost items tally).andThen fun items tally answer =>
        (next answer).run lost items tally := by
  induction script generalizing items tally with
  | done answer => rfl
  | failed error => rfl
  | read position rest inductionHypothesis =>
    simp only [bind, run]
    cases address? n position with
    | none => rfl
    | some index => exact inductionHypothesis ..
  | write position item rest inductionHypothesis =>
    simp only [bind, run]
    cases address? n position with
    | none => rfl
    | some index => exact inductionHypothesis ..
  | count change rest inductionHypothesis => exact inductionHypothesis ..

variable {a b : Int} {i j : Nat}

/-- A position of the array is read. The error for an address of nothing plays no part then,
whatever it is. -/
theorem run_read (place : a = i) (inside : i < n) (next : α → Script α ε β) :
    (read a next).run lost items tally = (next items[i]).run lost items tally := by
  subst place
  simp only [run, address?_natCast inside]
  rfl

theorem run_write (place : a = i) (inside : i < n) (item : α) (next : Script α ε β) :
    (write a item next).run lost items tally = next.run lost (items.set i item) tally := by
  subst place
  simp only [run, address?_natCast inside]

/-- Two positions of the array are exchanged, by two reads and two writes. They may be the same
position. -/
theorem run_exchange (first : a = i) (second : b = j) (iInside : i < n) (jInside : j < n)
    (next : Script α ε β) :
    (exchange a b next).run lost items tally = next.run lost (items.swap i j) tally := by
  have exchanged : (items.set i items[j]).set j items[i] = items.swap i j := by
    ext k inside
    rw [Vector.getElem_set, Vector.getElem_set, Vector.getElem_swap]
    by_cases atFirst : k = i
    · subst atFirst
      by_cases same : j = k <;> simp only [same, ↓reduceIte]
    · by_cases atSecond : k = j
      · subst atSecond
        simp only [atFirst, ↓reduceIte]
      · simp only [atFirst, atSecond, Ne.symm atFirst, Ne.symm atSecond, ↓reduceIte]
  rw [exchange, run_read lost items tally second jInside, run_read lost items tally first iInside,
    run_write lost items tally first iInside, run_write _ _ _ second jInside, exchanged]

end Run

section Track

variable (lost : ε) (script : Script α ε β) (items : Vector α n) (tally : Tally)

/-- With a tally every step counts, and the outcome is that of the plain run with its tally. -/
theorem track_some :
    script.track lost items (some tally) =
      ((script.run lost items tally).result, (script.run lost items tally).items,
        some (script.run lost items tally).tally) := by
  induction script generalizing items tally with
  | done answer => rfl
  | failed error => rfl
  | read position rest inductionHypothesis =>
    simp only [track, run]
    cases address? n position with
    | none => rfl
    | some index => exact inductionHypothesis ..
  | write position item rest inductionHypothesis =>
    simp only [track, run]
    cases address? n position with
    | none => rfl
    | some index => exact inductionHypothesis ..
  | count change rest inductionHypothesis => exact inductionHypothesis ..

/-- Without a tally the items and the end are those of a run that counts from any tally. Counting
has no effect on a script, as none of its steps reads what was counted. -/
theorem track_none :
    script.track lost items none =
      ((script.run lost items tally).result, (script.run lost items tally).items, none) := by
  induction script generalizing items tally with
  | done answer => rfl
  | failed error => rfl
  | read position rest inductionHypothesis =>
    simp only [track, run]
    cases address? n position with
    | none => rfl
    | some index => exact inductionHypothesis ..
  | write position item rest inductionHypothesis =>
    simp only [track, run]
    cases address? n position with
    | none => rfl
    | some index => exact inductionHypothesis ..
  | count change rest inductionHypothesis => exact inductionHypothesis items (change tally)

end Track

/-- A script reads and writes certain positions only, whatever items it reads, and ends with certain
errors and answers. Since every item may be read anywhere, this holds of all arrays and all
comparisons at once. -/
def Keeps (positions : Int → Prop) (errors : ε → Prop) (answers : β → Prop) :
    Script α ε β → Prop
  | done answer => answers answer
  | failed error => errors error
  | read position next => positions position ∧ ∀ item, (next item).Keeps positions errors answers
  | write position _ next => positions position ∧ next.Keeps positions errors answers
  | count _ next => next.Keeps positions errors answers

section Keeps

variable {positions : Int → Prop} {errors : ε → Prop} {answers : β → Prop}

/-- What a script and all that may follow it keep to, they keep to together. What follows has to be
considered only for the answers that the script may give. -/
theorem Keeps.bind {results : γ → Prop} {script : Script α ε β} {next : β → Script α ε γ}
    (first : script.Keeps positions errors answers)
    (second : ∀ answer, answers answer → (next answer).Keeps positions errors results) :
    (script.bind next).Keeps positions errors results := by
  induction script with
  | done answer => exact second answer first
  | failed error => exact first
  | read position rest inductionHypothesis =>
    exact ⟨first.1, fun item => inductionHypothesis item (first.2 item)⟩
  | write position item rest inductionHypothesis =>
    exact ⟨first.1, inductionHypothesis first.2⟩
  | count change rest inductionHypothesis => exact inductionHypothesis first

theorem Keeps.mono {wider : Int → Prop} {more : ε → Prop} {looser : β → Prop}
    {script : Script α ε β} (keeps : script.Keeps positions errors answers)
    (within : ∀ position, positions position → wider position)
    (excused : ∀ error, errors error → more error)
    (allowed : ∀ answer, answers answer → looser answer) : script.Keeps wider more looser := by
  induction script with
  | done answer => exact allowed answer keeps
  | failed error => exact excused error keeps
  | read position rest inductionHypothesis =>
    exact ⟨within position keeps.1, fun item => inductionHypothesis item (keeps.2 item)⟩
  | write position item rest inductionHypothesis =>
    exact ⟨within position keeps.1, inductionHypothesis keeps.2⟩
  | count change rest inductionHypothesis => exact inductionHypothesis keeps

/-- A question fails only if it is refused, and then with the refusal as its error. -/
theorem Keeps.ask {asked : Except ε Bool} {next : Bool → Script α ε β}
    (refused : ∀ error, asked = .error error → errors error)
    (later : ∀ answer, (next answer).Keeps positions errors answers) :
    (ask asked next).Keeps positions errors answers := by
  cases asked with
  | ok answer => exact later answer
  | error error => exact refused error rfl

theorem Keeps.exchange {a b : Int} {next : Script α ε β} (first : positions a)
    (second : positions b) (later : next.Keeps positions errors answers) :
    (exchange a b next).Keeps positions errors answers :=
  ⟨second, fun _ => ⟨first, fun _ => ⟨first, second, later⟩⟩⟩

/-- A script that keeps to the positions of the array fails with its own errors only: never because
an integer was beyond the array, and so never with the error of an address of nothing. -/
theorem Keeps.run_error {script : Script α ε β} (keeps : script.Keeps positions errors answers)
    (inside : ∀ position, positions position → 0 ≤ position ∧ position < n) (lost : ε)
    (items : Vector α n) (tally : Tally) {error : ε}
    (ended : (script.run lost items tally).result = .error error) : errors error := by
  induction script generalizing items tally with
  | done answer => cases ended
  | failed cause =>
    cases ended
    exact keeps
  | read position rest inductionHypothesis =>
    obtain ⟨lower, upper⟩ := inside position keeps.1
    rw [run_read lost items tally (Int.toNat_of_nonneg lower).symm (by omega)] at ended
    exact inductionHypothesis _ (keeps.2 _) items tally ended
  | write position item rest inductionHypothesis =>
    obtain ⟨lower, upper⟩ := inside position keeps.1
    rw [run_write lost items tally (Int.toNat_of_nonneg lower).symm (by omega)] at ended
    exact inductionHypothesis keeps.2 _ tally ended
  | count change rest inductionHypothesis => exact inductionHypothesis keeps items _ ended

end Keeps

end Script

end SortBench.Sorting
