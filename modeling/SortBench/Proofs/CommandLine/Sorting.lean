import SortBench.Program.Sabotage
import SortBench.Proofs.CommandLine.Endings
import SortBench.Proofs.Program.EndToEnd
import SortBench.Proofs.Value.Marks

/-!
# What the command that sorts prints

The command prints what the algorithm of its registry left, and ends with code zero whenever that
has a document. The judge is not asked. It would accept exactly the ascending rearrangements of the
integers given, and the built-in algorithms leave nothing else; but an algorithm that was put in
their place is believed.
-/

namespace SortBench

/-- Integers have one mark only if they are equal. For integers, to occur equally often by marks is
therefore to be a rearrangement. -/
theorem Value.mark_integer_injective : Function.Injective fun number => (integer number).mark := by
  intro a b same
  obtain ⟨below, above⟩ :=
    (same_iff (isOrdered_integer a) (isOrdered_integer b)).mp (beq_iff_eq.mpr same)
  exact Int.le_antisymm ((le?_integer a b).mp below) ((le?_integer b a).mp above)

theorem Bench.perm_iff_marks (numbers result : List Int) :
    result.Perm numbers ↔ ((numbers.map Value.integer).map Value.mark).Perm
      ((result.map Value.integer).map Value.mark) := by
  rw [List.map_map, List.map_map, List.perm_comm]
  exact (List.map_perm_map_iff Value.mark_integer_injective).symm

/-- The judge of integers accepts their ascending rearrangements. On integers the judge is thus the
specification of sorting, without a word about spellings or undefined values. -/
theorem Bench.verifySorted_integers_iff (numbers result : List Int) :
    verifySorted (numbers.map .integer) (result.map .integer) = .ok () ↔
      result.Perm numbers ∧ result.Pairwise (· ≤ ·) := by
  have ascending : (result.map Value.integer).IsChain (fun a b => a.gt? b = .ok false) ↔
      result.Pairwise (· ≤ ·) := by
    have ordered : (result.map Value.integer).Pairwise (fun a b => a.le? b = .ok true) ↔
        result.Pairwise (· ≤ ·) := by
      simp only [List.pairwise_map, Value.le?_integer]
    rw [← ordered]
    constructor
    · exact pairwise_of_isChain fun value member => (Value.isOrdered_integers result value member).2
    · exact fun sorted => (sorted.imp fun compared => Value.gt?_of_le? compared).isChain
  rw [verifySorted_eq_ok_iff, ascending, perm_iff_marks]

namespace CommandLine

/-- The output is the document of what an algorithm left, its values among it. That a document was
shown does not say that it was judged. -/
def Ending.Shows (ending : Ending) (algorithm : Text) (bench : Bench) : Prop :=
  ∃ document, sortedDocument algorithm bench = .ok document ∧
    document.member? "values" = some (Value.documents bench.values.toList) ∧
      ending.output = Text.ofString document.indented ++ "\n"

/-- A document of what was left lists its values, in their order. -/
theorem values_of_sortedDocument {algorithm : Text} {bench : Bench} {document : Json.Document}
    (written : sortedDocument algorithm bench = .ok document) :
    document.member? "values" = some (Value.documents bench.values.toList) := by
  unfold sortedDocument at written
  cases digested : Canonical.digest bench.values.toList with
  | error cause =>
    rw [digested] at written
    cases written
  | ok digest =>
    rw [digested] at written
    cases written
    rfl

section

variable {site : Site} {settings : Settings} {request : Request} {algorithm : Text}
  {numbers : List Int} (asked : request.command = .sort algorithm numbers)

include asked

/-- Integers within the limit of which an algorithm left something that has a document: the request
ends with code zero and shows this. -/
theorem Request.shows_of_left {bench : Bench} {document : Json.Document}
    (sorted : sortNumbers site.registry settings.limit algorithm numbers = .ok bench)
    (written : sortedDocument algorithm bench = .ok document) :
    ∃ ending, request.perform site settings = .ok ending ∧ ending.code = succeeded ∧
      ending.Shows algorithm bench := by
  unfold perform
  rw [asked, Command.perform_sort, sorted]
  dsimp only
  rw [written]
  refine ⟨_, rfl, rfl, document, written, values_of_sortedDocument written, ?_⟩
  simp [Session.output, Text.join]

/-- What has no digest because an integer of it is not written is not shown, and no ending is
foreseen for that. -/
theorem Request.perform_unwritten {bench : Bench}
    (sorted : sortNumbers site.registry settings.limit algorithm numbers = .ok bench)
    (undigested :
      Canonical.digest bench.values.toList = .error (.unwritten Numeral.mostDigits)) :
    request.perform site settings = .error (.unwritten Numeral.mostDigits) := by
  unfold perform
  rw [asked, Command.perform_sort, sorted]
  dsimp only
  rw [sortedDocument, undigested]
  rfl

/-- Code zero shows what the algorithm left of integers within the limit. The converse of what goes
before: nothing else is ever shown with this code. -/
theorem Request.left_of_succeeded {ending : Ending}
    (ended : request.perform site settings = .ok ending) (code : ending.code = succeeded) :
    ∃ bench, sortNumbers site.registry settings.limit algorithm numbers = .ok bench ∧
      ending.Shows algorithm bench := by
  have succeeds := (request.ends_succeeded_iff site settings).mp ⟨ending, ended, code⟩
  rw [asked, Command.perform_sort] at succeeds
  cases sorted : sortNumbers site.registry settings.limit algorithm numbers with
  | error fault => simp [sorted] at succeeds
  | ok bench =>
    cases written : sortedDocument algorithm bench with
    | error cause => simp [sorted, written] at succeeds
    | ok document =>
      obtain ⟨same, performed, _, shows⟩ := request.shows_of_left asked sorted written
      obtain rfl : ending = same := Except.ok.inj (ended.symm.trans performed)
      exact ⟨bench, rfl, shows⟩

end

/-- Whatever the registry. When the algorithm leaves short integers of integers within the limit,
the request ends with code zero and shows them; the judge, which is not asked, would accept what is
left exactly if it is what was given in ascending order. An integer that is not short cannot be
shown, and no ending is foreseen for that. Code zero always shows what the algorithm left, and if
the algorithm is built in, this is the ascending rearrangement.

The built-in algorithms need no judge to be right, so its absence makes a difference only where one
of them was replaced.

Proof: the command sorts and then writes the document of what is left; nothing stands between. That
the judge would be exact, and the built-in algorithms right, is known of the judge and of these. -/
theorem Request.sort_shows_left (site : Site) (settings : Settings) (request : Request)
    {algorithm : Text} {numbers : List Int} (asked : request.command = .sort algorithm numbers) :
    (∀ (bench : Bench) (result : List Int), (numbers.length : Int) ≤ settings.limit →
        site.registry.sort algorithm (Bench.ofList (numbers.map .integer)) = (.ok (), bench) →
        bench.values.toList = result.map .integer →
        ((∀ number ∈ result, Numeral.IsShort number) →
          ∃ ending, request.perform site settings = .ok ending ∧ ending.code = succeeded ∧
            ending.Shows algorithm bench) ∧
          ((∃ number ∈ result, ¬ Numeral.IsShort number) →
            request.perform site settings = .error (.unwritten Numeral.mostDigits)) ∧
          (site.registry.sortJudged algorithm (numbers.map .integer) = .ok bench ↔
            result.Perm numbers ∧ result.Pairwise (· ≤ ·))) ∧
      ∀ ending, request.perform site settings = .ok ending → ending.code = succeeded →
        ∃ bench, (numbers.length : Int) ≤ settings.limit ∧
          site.registry.sort algorithm (Bench.ofList (numbers.map .integer)) = (.ok (), bench) ∧
          ending.Shows algorithm bench ∧
          (site.registry = .builtIn → ∃ result : List Int,
            bench.values.toList = result.map .integer ∧ result.Perm numbers ∧
              result.Pairwise (· ≤ ·)) := by
  constructor
  · intro bench result within left values
    have sorted := sortNumbers_eq_ok_iff.mpr ⟨within, left⟩
    refine ⟨?_, ?_, ?_⟩
    · intro short
      have digested := Canonical.digest_integer short
      rw [← values] at digested
      obtain ⟨document, written⟩ : ∃ document, sortedDocument algorithm bench = .ok document := by
        rw [sortedDocument, digested]
        exact ⟨_, rfl⟩
      exact request.shows_of_left asked sorted written
    · rintro ⟨number, member, long⟩
      have undigested := Canonical.digest_of_long fun short => long (short number member)
      rw [← values] at undigested
      exact request.perform_unwritten asked sorted undigested
    · rw [Registry.sortJudged_eq_ok_iff, values, Bench.verifySorted_integers_iff]
      exact and_iff_right left
  · intro ending ended code
    obtain ⟨bench, sorted, shows⟩ := request.left_of_succeeded asked ended code
    obtain ⟨within, left⟩ := sortNumbers_eq_ok_iff.mp sorted
    refine ⟨bench, within, left, shows, ?_⟩
    intro builtIn
    rw [builtIn] at left
    obtain ⟨same, ascending⟩ :=
      Registry.perm_and_pairwise_of_sort rfl (Value.isOrdered_integers numbers) left
    exact exists_ascending_integers same ascending

/-- Two descending integers are sorted by the built-in bubble sort and shown in ascending order. -/
theorem Request.sort_shows_left_descending :
    ∃ ending bench, Request.perform {} (.limited 2) ⟨none, none, .sort "bubble" [2, 1]⟩ =
        .ok ending ∧
      ending.code = succeeded ∧ ending.Shows "bubble" bench ∧
        bench.values.toList = [.integer 1, .integer 2] := by
  obtain ⟨bench, left, values⟩ : ∃ bench, Registry.builtIn.sort "bubble"
      (Bench.ofList [.integer 2, .integer 1]) = (.ok (), bench) ∧
        bench.values.toList = [1, 2].map .integer := ⟨_, rfl, rfl⟩
  obtain ⟨⟨ending, ended, code, shows⟩, _⟩ :=
    (Request.sort_shows_left {} (.limited 2) ⟨none, none, .sort "bubble" [2, 1]⟩ rfl).1 bench [1, 2]
      (by decide) left values |>.imp_left fun shown => shown (by decide)
  exact ⟨ending, bench, ended, code, shows, values⟩

/-- A registry in which the bubble sort was replaced by an algorithm that does nothing. It ends well
on every array, and leaves every array as it was. -/
def idleRegistry : Registry :=
  Registry.builtIn.insert "bubble" Sabotage.idle.algorithm

/-- Under this registry two descending integers are shown as they were given, with code zero, though
the judge rejects them. -/
theorem Request.sort_shows_unsorted :
    (∃ ending, Request.perform { registry := idleRegistry } (.limited 2)
        ⟨none, none, .sort "bubble" [2, 1]⟩ = .ok ending ∧
      ending.code = succeeded ∧
        ending.Shows "bubble" (Bench.ofList [.integer 2, .integer 1])) ∧
      idleRegistry.sortJudged "bubble" [.integer 2, .integer 1] =
        .error (.violation (.descending 0 (.integer 2) (.integer 1))) := by
  have left : idleRegistry.sort "bubble" (Bench.ofList [.integer 2, .integer 1]) =
      (.ok (), Bench.ofList [.integer 2, .integer 1]) := rfl
  constructor
  · have sorted : sortNumbers idleRegistry 2 "bubble" [2, 1] =
        .ok (Bench.ofList [.integer 2, .integer 1]) :=
      sortNumbers_eq_ok_iff.mpr ⟨by decide, left⟩
    exact Request.shows_of_left rfl sorted rfl
  · have same : Bench.isRearrangement [.integer 2, .integer 1] [.integer 2, .integer 1] = true :=
      (Bench.isRearrangement_iff _ _).mpr (.refl _)
    rw [Registry.sortJudged, left]
    dsimp only [Bench.ofList]
    rw [Bench.verifySorted, if_pos same]
    rfl

end CommandLine

end SortBench
