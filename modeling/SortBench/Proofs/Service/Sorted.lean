import SortBench.Program.Sabotage
import SortBench.Proofs.CommandLine.Sorting
import SortBench.Proofs.Service.Posted

/-!
# Replies to what is posted to be sorted

The service has the result of every algorithm judged, so it need not know what an algorithm does: if
it gives up or leaves integers of whatever kind, there is a status for it. Only when the judge has
accepted a result is it looked up whether the algorithm keeps equal values in order. This is
recorded for the built-in names and for no others. Under any other name integers that were sorted
well are an internal error, although a run of a program would report them without a record.
-/

namespace SortBench

open Sorting (Tally)

/-- Given integers, the algorithm gives up or leaves integers, any number of any. It need not sort,
nor even keep the ones that it was given. -/
def Algorithm.KeepsIntegers (algorithm : Algorithm) : Prop :=
  ∀ numbers : List Int,
    (∃ text after, algorithm (Bench.ofList (numbers.map .integer)) =
        (.error (.exhausted text), after)) ∨
      ∃ (left : List Int) (after : Bench),
        algorithm (Bench.ofList (numbers.map .integer)) = (.ok (), after) ∧
          after.values.toList = left.map .integer

namespace Registry

/-- The algorithm of a name gives up on integers. -/
def Exhausts (registry : Registry) (name : Text) (numbers : List Int) : Prop :=
  ∃ text after,
    registry.sort name (Bench.ofList (numbers.map .integer)) = (.error (.exhausted text), after)

/-- The algorithm of a name ends well on integers, and the bench then has the integers that are
left. -/
def Leaves (registry : Registry) (name : Text) (numbers left : List Int) (after : Bench) : Prop :=
  registry.sort name (Bench.ofList (numbers.map .integer)) = (.ok (), after) ∧
    after.values.toList = left.map .integer

variable {registry : Registry} {name : Text} {numbers left : List Int} {after : Bench}

theorem exists_of_registered (registered : name ∈ registry.names) :
    ∃ algorithm, registry.find? name = some algorithm ∧ (name, algorithm) ∈ registry.entries := by
  cases found : registry.find? name with
  | none =>
    rw [find?, List.lookup_eq_none_iff] at found
    obtain ⟨entry, member, rfl⟩ := List.mem_map.mp (mem_names.mp registered)
    exact absurd rfl (bne_iff_ne.mp (found entry member))
  | some algorithm =>
    obtain ⟨before, rest, entries, _⟩ := List.lookup_eq_some_iff.mp found
    exact ⟨algorithm, rfl, by simp [entries]⟩

/-- A registered algorithm gives up on integers or leaves some, if every entry does. -/
theorem exhausts_or_leaves (keeps : ∀ entry ∈ registry.entries, entry.2.KeepsIntegers)
    (registered : name ∈ registry.names) (numbers : List Int) :
    registry.Exhausts name numbers ∨ ∃ left after, registry.Leaves name numbers left after := by
  obtain ⟨algorithm, found, member⟩ := exists_of_registered registered
  have ends := keeps _ member numbers
  simpa only [Exhausts, Leaves, sort, found] using ends

/-- The built-in algorithms give up on integers or leave these very integers, so registries that add
nothing meet the condition. -/
theorem builtIn_keepsIntegers : ∀ entry ∈ builtIn.entries, entry.2.KeepsIntegers := by
  intro entry member numbers
  have known : entry.1 ∈ builtIn.entries.map Prod.fst := List.mem_map_of_mem member
  have found : builtIn.sort entry.1 = entry.2 := by
    simp only [builtIn, List.mem_cons, List.not_mem_nil, or_false] at member
    obtain rfl | rfl | rfl := member <;> rfl
  have ordered := Value.isOrdered_integers numbers
  obtain ⟨_, failed⟩ | ⟨_, after, ended, _⟩ :=
    builtIn_sort_ascending known (Bench.ofList (numbers.map .integer)) rfl ordered
  · rw [found] at failed
    exact Or.inl ⟨_, _, Prod.ext failed rfl⟩
  · obtain ⟨same, _⟩ := perm_and_pairwise_of_sort rfl ordered ended
    obtain ⟨left, values, _⟩ := exists_integers_of_perm same
    rw [found] at ended
    exact Or.inr ⟨left, after, ended, values⟩

/-- The algorithm that was added or put in the place of another is the one that sorts. -/
theorem sort_insert (registry : Registry) (name : Text) (algorithm : Algorithm) :
    (registry.insert name algorithm).sort name = algorithm := by
  simp [sort, find?, insert]

/-- An algorithm that is added, or put in the place of another, has to keep integers itself. -/
theorem insert_keepsIntegers (keeps : ∀ entry ∈ registry.entries, entry.2.KeepsIntegers)
    (name : Text) {algorithm : Algorithm} (added : algorithm.KeepsIntegers) :
    ∀ entry ∈ (registry.insert name algorithm).entries, entry.2.KeepsIntegers := by
  intro entry member
  obtain rfl | kept := List.mem_cons.mp member
  · exact added
  · exact keeps entry (List.mem_filter.mp kept).1

/-- The ascending rearrangement of integers is accepted when it is what was left of them. How long
they are makes no difference, as nothing is written in an acceptance. -/
theorem sortJudged_of_sorted (leaves : registry.Leaves name numbers left after)
    (sorted : left.Perm numbers ∧ left.Pairwise (· ≤ ·)) :
    registry.sortJudged name (numbers.map .integer) = .ok after := by
  rw [sortJudged_eq_ok_iff, leaves.2, Bench.verifySorted_integers_iff]
  exact ⟨leaves.1, sorted⟩

/-- Any other integers are a violation, in the words of the judge, which can be written: of integers
that are no rearrangement of the given ones only the numbers are named. -/
theorem sortJudged_of_unsorted (leaves : registry.Leaves name numbers left after)
    (unsorted : ¬ (left.Perm numbers ∧ left.Pairwise (· ≤ ·)))
    (short : ∀ number ∈ numbers, Numeral.IsShort number) :
    ∃ cause, registry.sortJudged name (numbers.map .integer) = .error (.violation cause) ∧
      (∀ rule detail, cause ≠ .stated rule detail) ∧
        ∀ number ∈ cause.numbers, Numeral.IsShort number := by
  obtain verified | ⟨cause, violated, own, named⟩ := Bench.verifySorted_of_family
    (numbers.map .integer) fun value member => (Value.isOrdered_integers left value member).1
  · exact absurd ((Bench.verifySorted_integers_iff numbers left).mp verified) unsorted
  · refine ⟨cause, ?_, own, ?_⟩
    · rw [sortJudged, leaves.1]
      simp only [leaves.2, violated]
    · intro number member
      obtain ⟨same, value, held, shown⟩ := named number member
      obtain ⟨integer, listed, rfl⟩ := List.mem_map.mp held
      obtain rfl := Option.some.inj shown
      exact short integer ((Bench.perm_iff_marks numbers left).mpr same |>.subset listed)

/-- Where an algorithm gives up there is nothing to judge. -/
theorem sortJudged_of_exhausts (exhausts : registry.Exhausts name numbers) :
    ∃ text, registry.sortJudged name (numbers.map .integer) = .error (.exhausted text) := by
  obtain ⟨text, after, failed⟩ := exhausts
  exact ⟨text, by rw [sortJudged, failed]⟩

end Registry

/-- A name under which it is recorded whether equal values keep their order is a string. -/
theorem Algorithm.isSome_of_stable {name : Text} {stable : Bool}
    (recorded : stable? name = some stable) : name.string?.isSome = true := by
  unfold stable? at recorded
  cases content : name.string? with
  | none => simp [content] at recorded
  | some string => rfl

namespace Service

open Json

/-- The figures of a bench can be written plainly. -/
theorem isPlain_figures (tally : Tally) :
    (Document.ofFigures tally.figures).isPlain = true := by
  simp [Tally.figures, Document.ofFigures, Document.isPlain, allMembersPlain,
    Text.string?_ofString]

/-- The document of sorted integers. -/
def sortedIntegers (algorithm : Text) (stable : Bool) (sorted : List Int) (tally : Tally) :
    Document :=
  .object
    [("algorithm", .text algorithm), ("stable", .boolean stable), ("values", .ofIntegers sorted),
      ("hash", .text (Canonical.digestOfChars (Canonical.chars sorted))),
      ("stats", .ofFigures tally.figures)]

section

variable {registry : Registry} {numbers sorted : List Int} {algorithm : Text} {bench : Bench}
  (judged : registry.sortJudged algorithm (numbers.map .integer) = .ok bench)

include judged

/-- Short integers that the judge accepted are answered with, if it is recorded whether the
algorithm keeps equal values in order. -/
theorem answerSorted_recorded (values : bench.values.toList = sorted.map .integer)
    (short : ∀ number ∈ sorted, Numeral.IsShort number) {stable : Bool}
    (recorded : Algorithm.stable? algorithm = some stable) :
    answerSorted registry numbers algorithm =
      ⟨200, .document (sortedIntegers algorithm stable sorted (bench.tally.getD {}))⟩ := by
  have plain := Algorithm.isSome_of_stable recorded
  unfold answerSorted
  rw [judged]
  dsimp only
  rw [recorded, values, Canonical.digest_integer short, Value.documents_integers]
  dsimp only
  unfold Reply.ok Reply.ofDocument
  rw [if_pos]
  · rfl
  · simp [Document.isPlain, allMembersPlain, Text.string?_ofString, isPlain_ofIntegers,
      isPlain_figures, plain]

/-- Without a record they are an internal error, though nothing is wrong with them. -/
theorem answerSorted_unrecorded (unrecorded : Algorithm.stable? algorithm = none) :
    answerSorted registry numbers algorithm = .internalError := by
  unfold answerSorted
  rw [judged, unrecorded]

end

/-- What is posted to be sorted is answered by what it is read as. -/
theorem answer_sort {site : Site} (settings : Settings) {body : Text} {request : SortRequest}
    (read : readSort body = .ok request) :
    answer site settings ⟨"POST", "/sort", body⟩ = answerSort site settings request := by
  show answerPosted (readSort body) (answerSort site settings) = _
  rw [read]
  rfl

/-- A site where reversing is registered under a name. If the name is that of a built-in algorithm,
it is replaced. -/
def reversing (name : Text) : Site :=
  { registry := Registry.builtIn.insert name Sabotage.reverse.algorithm }

/-- Of integers the reversed ones are left. -/
theorem reversing_leaves (name : Text) (numbers : List Int) :
    (reversing name).registry.Leaves name numbers numbers.reverse
      { values := (numbers.map Value.integer).toArray.reverse, tally := some {} } := by
  constructor
  · rw [reversing, Registry.sort_insert]
    rfl
  · simp

/-- So all algorithms of the site give up on integers or leave integers. -/
theorem reversing_keepsIntegers (name : Text) :
    ∀ entry ∈ (reversing name).registry.entries, entry.2.KeepsIntegers := by
  apply Registry.insert_keepsIntegers Registry.builtIn_keepsIntegers
  intro numbers
  refine Or.inr ⟨numbers.reverse, _, rfl, ?_⟩
  simp [Bench.ofList]

theorem registered_reversing (name : Text) : name ∈ (reversing name).registry.names :=
  Registry.mem_names.mpr (List.mem_cons_self ..)

/-- Whatever the registered algorithms do with integers, as long as they end with integers or give
up. A request to sort is a bad one if there are too many integers or the algorithm is not
registered. Otherwise it cannot be processed if the algorithm gives up or leaves anything but the
ascending rearrangement of the integers. If it leaves this, the reply has it, with the hash and the
figures, under a name for which there is a record of the order of equal values; under any other
name it is an internal error.

Proof: by cases in the order of the checks: the limit, the name, how the algorithm ends, whether the
judge accepts, and whether there is a record. Posted integers are short, so the text of every
refusal is written. -/
theorem answer_sort_cases {site : Site} (settings : Settings)
    (keeps : ∀ entry ∈ site.registry.entries, entry.2.KeepsIntegers) {body : Text}
    {request : SortRequest} (read : readSort body = .ok request) :
    ((settings.limit < request.values.length ∨ request.algorithm ∉ site.registry.names) ∧
        (answer site settings ⟨"POST", "/sort", body⟩).status = 400) ∨
      ((request.values.length : Int) ≤ settings.limit ∧
          request.algorithm ∈ site.registry.names) ∧
        ((site.registry.Exhausts request.algorithm request.values ∧
            (answer site settings ⟨"POST", "/sort", body⟩).status = 422) ∨
          ∃ left after, site.registry.Leaves request.algorithm request.values left after ∧
            if left.Perm request.values ∧ left.Pairwise (· ≤ ·) then
              match Algorithm.stable? request.algorithm with
              | some stable => answer site settings ⟨"POST", "/sort", body⟩ =
                  ⟨200, .document
                    (sortedIntegers request.algorithm stable left (after.tally.getD {}))⟩
              | none => (answer site settings ⟨"POST", "/sort", body⟩).status = 500
            else (answer site settings ⟨"POST", "/sort", body⟩).status = 422) := by
  have short := isShort_of_readSort read
  rw [answer_sort settings read, answerSort]
  by_cases beyond : settings.limit < request.values.length
  · rw [if_pos beyond]
    exact Or.inl ⟨Or.inl beyond, status_tooMany ..⟩
  rw [if_neg beyond]
  by_cases registered : request.algorithm ∈ site.registry.names
  · refine Or.inr ⟨⟨Int.not_lt.mp beyond, registered⟩, ?_⟩
    obtain exhausts | ⟨left, after, leaves⟩ :=
      Registry.exhausts_or_leaves keeps registered request.values
    · obtain ⟨text, failed⟩ := Registry.sortJudged_of_exhausts exhausts
      rw [answerSorted, failed]
      exact Or.inl ⟨exhausts, status_replyToFault_exhausted text⟩
    · refine Or.inr ⟨left, after, leaves, ?_⟩
      split
      case isTrue sorted =>
        have judged := Registry.sortJudged_of_sorted leaves sorted
        split
        case h_1 stable recorded =>
          have stillShort := fun number member => short number (sorted.1.subset member)
          exact answerSorted_recorded judged leaves.2 stillShort recorded
        case h_2 unrecorded =>
          rw [answerSorted_unrecorded judged unrecorded]
          rfl
      case isFalse unsorted =>
        obtain ⟨cause, violated, own, named⟩ :=
          Registry.sortJudged_of_unsorted leaves unsorted short
        rw [answerSorted, violated]
        exact status_replyToFault_violation own named
  · have unknown := fun known => registered (Registry.mem_names.mpr known)
    rw [answerSorted, Registry.sortJudged_of_unknown unknown]
    exact Or.inl ⟨Or.inr registered, status_replyToFault_precondition nofun nofun⟩

/-- With reversing in the place of a built-in algorithm descending integers are answered with in
order, and ascending ones cannot be processed. -/
theorem answer_sort_cases_reversing :
    (∀ entry ∈ (reversing "quick").registry.entries, entry.2.KeepsIntegers) ∧
      (readSort (SortRequest.body ⟨[2, 1], "quick"⟩) = .ok ⟨[2, 1], "quick"⟩ ∧
        answer (reversing "quick") (.limited 10000)
            ⟨"POST", "/sort", SortRequest.body ⟨[2, 1], "quick"⟩⟩ =
          ⟨200, .document (sortedIntegers "quick" false [1, 2] {})⟩) ∧
      readSort (SortRequest.body ⟨[1, 2], "quick"⟩) = .ok ⟨[1, 2], "quick"⟩ ∧
        (answer (reversing "quick") (.limited 10000)
          ⟨"POST", "/sort", SortRequest.body ⟨[1, 2], "quick"⟩⟩).status = 422 := by
  have keeps := reversing_keepsIntegers "quick"
  have registered := registered_reversing "quick"
  -- What is left by the one algorithm that is run excludes the other ways to end.
  have reversed {numbers left : List Int} {after : Bench}
      (leaves : (reversing "quick").registry.Leaves "quick" numbers left after) :
      left = numbers.reverse ∧ after.tally = some {} := by
    have same := leaves.1.symm.trans (reversing_leaves "quick" numbers).1
    obtain rfl := (Prod.mk.inj same).2
    have values := leaves.2.symm.trans (reversing_leaves "quick" numbers).2
    exact ⟨Value.map_integer_injective values, rfl⟩
  have stays (numbers : List Int) : ¬ (reversing "quick").registry.Exhausts "quick" numbers := by
    rintro ⟨text, after, failed⟩
    cases failed.symm.trans (reversing_leaves "quick" numbers).1
  have readFirst : readSort (SortRequest.body ⟨[2, 1], "quick"⟩) = .ok ⟨[2, 1], "quick"⟩ :=
    readSort_body (by decide) rfl
  have readSecond : readSort (SortRequest.body ⟨[1, 2], "quick"⟩) = .ok ⟨[1, 2], "quick"⟩ :=
    readSort_body (by decide) rfl
  refine ⟨keeps, ⟨readFirst, ?_⟩, readSecond, ?_⟩
  · obtain ⟨refused, _⟩ | ⟨_, ⟨gaveUp, _⟩ | ⟨left, after, leaves, answered⟩⟩ :=
      answer_sort_cases (.limited 10000) keeps readFirst
    · exact absurd refused (by simp [registered]; decide)
    · exact absurd gaveUp (stays _)
    · obtain ⟨rfl, tally⟩ := reversed leaves
      rw [if_pos (by decide), tally] at answered
      exact answered
  · obtain ⟨refused, _⟩ | ⟨_, ⟨gaveUp, _⟩ | ⟨left, after, leaves, answered⟩⟩ :=
      answer_sort_cases (.limited 10000) keeps readSecond
    · exact absurd refused (by simp [registered]; decide)
    · exact absurd gaveUp (stays _)
    · obtain ⟨rfl, _⟩ := reversed leaves
      rw [if_neg (by decide)] at answered
      exact answered

/-- Under a name of its own reversing leaves the same integers of descending ones, and the judge
accepts them, but the reply is an internal error. -/
theorem sorted_internalError :
    (∀ entry ∈ (reversing "rev").registry.entries, entry.2.KeepsIntegers) ∧
      readSort (SortRequest.body ⟨[2, 1], "rev"⟩) = .ok ⟨[2, 1], "rev"⟩ ∧
      (2 : Int) ≤ (Settings.limited 10000).limit ∧ ↑"rev" ∈ (reversing "rev").registry.names ∧
      (∃ after, (reversing "rev").registry.Leaves "rev" [2, 1] [1, 2] after ∧
        (reversing "rev").registry.sortJudged "rev" [.integer 2, .integer 1] = .ok after) ∧
      (answer (reversing "rev") (.limited 10000)
        ⟨"POST", "/sort", SortRequest.body ⟨[2, 1], "rev"⟩⟩).status = 500 := by
  have read : readSort (SortRequest.body ⟨[2, 1], "rev"⟩) = .ok ⟨[2, 1], "rev"⟩ :=
    readSort_body (by decide) rfl
  have leaves := reversing_leaves "rev" [2, 1]
  have judged := Registry.sortJudged_of_sorted leaves (by decide)
  refine ⟨reversing_keepsIntegers "rev", read, by decide, registered_reversing "rev",
    ⟨_, leaves, judged⟩, ?_⟩
  rw [answer_sort _ read, answerSort, if_neg (by decide), answerSorted_unrecorded judged rfl]
  rfl

end Service

end SortBench
