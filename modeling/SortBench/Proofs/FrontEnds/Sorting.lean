import SortBench.Proofs.CommandLine.Arguments
import SortBench.Proofs.CommandLine.Outcomes
import SortBench.Proofs.Service.Sorted

/-!
# Sorting by either front end

The command line looks up the algorithm before it counts the integers, and believes the one that was
chosen; the service counts first, looks up the algorithm when it is to run, and has its result
judged. With the built-in algorithms none of this makes a difference: both sort the same requests,
to the same values with the same hash and the same figures, both give up on the same requests, and
both refuse the rest.
-/

namespace SortBench

open Numeral (IsShort)

/-- Of a built-in algorithm it is recorded whether it keeps equal values in order. Without such a
record the service could not answer. -/
theorem Registry.exists_stable {name : Text} (known : name ∈ builtIn.entries.map Prod.fst) :
    ∃ stable, Algorithm.stable? name = some stable := by
  obtain ⟨rfl, _⟩ | ⟨rfl, _⟩ | ⟨rfl, _⟩ | ⟨unknown, _⟩ := builtIn_cases name
  · exact ⟨_, rfl⟩
  · exact ⟨_, rfl⟩
  · exact ⟨_, rfl⟩
  · exact absurd known unknown

namespace Service

open Json

namespace SortRequest

/-- A request can be met unless the algorithm gives up: there are no more integers than the limit,
and the algorithm is built in. -/
structure IsAcceptable (request : SortRequest) (settings : Settings) : Prop where
  /-- The integers are within the limit. -/
  within : (request.values.length : Int) ≤ settings.limit
  /-- The algorithm is built in. -/
  known : request.algorithm ∈ Registry.builtIn.names

/-- The algorithm gives up on the integers. Only the recursive quicksort ever does, on integers
whose divisions go too deep. -/
def GivesUp (request : SortRequest) : Prop :=
  Registry.GivesUp request.algorithm (request.values.map .integer)

end SortRequest

/-- Integers that the judge accepted from a built-in algorithm are answered with, and the document
of the reply has the values, the hash and the figures that the command line shows of them. The two
documents are not the same, as each has members that the other lacks. -/
theorem answerSorted_judged {registry : Registry} {numbers result : List Int} {algorithm : Text}
    (known : algorithm ∈ Registry.builtIn.entries.map Prod.fst) {bench : Bench}
    (judged : registry.sortJudged algorithm (numbers.map .integer) = .ok bench)
    (values : bench.values.toList = result.map .integer)
    (short : ∀ number ∈ result, IsShort number) :
    ∃ replied shown, answerSorted registry numbers algorithm = ⟨200, .document replied⟩ ∧
      CommandLine.sortedDocument algorithm bench = .ok shown ∧
      replied.member? "values" = some (.ofIntegers result) ∧
      ∀ name ∈ ([↑"values", ↑"hash", ↑"stats"] : List Text),
        ∃ member, replied.member? name = some member ∧ shown.member? name = some member := by
  obtain ⟨stable, recorded⟩ := Registry.exists_stable known
  obtain ⟨shown, written, valuesShown, hashShown, statsShown⟩ : ∃ shown,
      CommandLine.sortedDocument algorithm bench = .ok shown ∧
        shown.member? "values" = some (.ofIntegers result) ∧
        shown.member? "hash" =
          some (.text (Canonical.digestOfChars (Canonical.chars result))) ∧
        shown.member? "stats" = some (.ofFigures (bench.tally.getD {}).figures) := by
    rw [CommandLine.sortedDocument, values, Canonical.digest_integer short,
      Value.documents_integers]
    exact ⟨_, rfl, rfl, rfl, rfl⟩
  refine ⟨_, shown, answerSorted_recorded judged values short recorded, written, rfl, ?_⟩
  simp only [List.forall_mem_cons]
  exact ⟨⟨_, rfl, valuesShown⟩, ⟨_, rfl, hashShown⟩, ⟨_, rfl, statsShown⟩, by simp⟩

variable {site : Site} {settings : Settings} {request : SortRequest}

/-- A request that cannot be met is a bad request, with the one status for both reasons. -/
theorem status_answerSort_refused (builtIn : site.registry = .builtIn)
    (unacceptable : ¬ request.IsAcceptable settings) :
    (answerSort site settings request).status = 400 := by
  unfold answerSort
  by_cases beyond : settings.limit < request.values.length
  · rw [if_pos beyond]
    exact status_tooMany ..
  · have unknown : request.algorithm ∉ Registry.builtIn.entries.map Prod.fst := by
      intro known
      exact unacceptable ⟨Int.not_lt.mp beyond, Registry.mem_names.mpr known⟩
    rw [if_neg beyond, answerSorted, builtIn, Registry.sortJudged_of_unknown unknown]
    exact status_replyToFault_precondition (by simp) (by simp [Precondition.numbers])

end Service

namespace CommandLine

variable {site : Site} {settings : Settings}
  (loaded : Settings.load site.environment site.files none = .ok settings)
  (builtIn : site.registry = .builtIn) {algorithm : Text}
  (noHyphen : algorithm.symbols.head? ≠ some (.character '-')) {numbers : List Int}
  (short : ∀ number ∈ numbers, IsShort number)

include loaded builtIn noHyphen short

/-- Arguments that ask for short integers to be sorted by a built-in algorithm end as the sort
does. -/
theorem run_sort (known : algorithm ∈ Registry.builtIn.names) {performed : Ending}
    (ended : Request.perform site settings ⟨none, none, .sort algorithm numbers⟩ = .ok performed) :
    ∃ ending, run site (sortArguments algorithm numbers) = .ok ending ∧
      ending.code = performed.code ∧ ending.output = performed.output := by
  have asked := (ofArguments_sort (Usage.lineWidth (site.environment.lookup Usage.columnsName))
    noHyphen short).1 known
  rw [← builtIn] at asked
  exact run_asked asked loaded ended

/-- A sort of short integers that fails by a fault with a code ends with this code, if the text of
the fault names no integer. -/
theorem run_sort_failed (known : algorithm ∈ Registry.builtIn.names) {fault : Fault}
    (failed : sortNumbers .builtIn settings.limit algorithm numbers = .error fault)
    (plain : fault.numbers = []) {code : Nat}
    {message : Text} (expected : faultEnding fault = some (code, message)) :
    ∃ ending, run site (sortArguments algorithm numbers) = .ok ending ∧ ending.code = code := by
  have stops : ∀ session, ((Command.sort algorithm numbers).perform site settings).run.run session =
      (.error fault, session) := by
    intro session
    rw [Command.perform_sort, builtIn, failed]
    dsimp only
    rw [Fault.raised_of_numbers_eq_nil plain]
  obtain ⟨performed, ended, code, _⟩ :=
    Request.perform_failed site settings ⟨none, none, .sort algorithm numbers⟩ stops expected
  obtain ⟨ending, ran, same, _⟩ := run_sort loaded builtIn noHyphen short known ended
  exact ⟨ending, ran, same.trans code⟩

/-- Arguments for a request that cannot be met are a misuse. An unknown algorithm is refused as an
argument, too many integers only by the command. -/
theorem run_sort_refused
    (unacceptable : ¬ Service.SortRequest.IsAcceptable ⟨numbers, algorithm⟩ settings) :
    ∃ ending, run site (sortArguments algorithm numbers) = .ok ending ∧
      ending.code = misused := by
  by_cases known : algorithm ∈ Registry.builtIn.names
  · have beyond : settings.limit < numbers.length := by
      apply Int.not_le.mp
      exact fun within => unacceptable ⟨within, known⟩
    have failed : sortNumbers .builtIn settings.limit algorithm numbers =
        .error (.precondition (.valuesBeyondLimit numbers.length settings.limit)) := if_pos beyond
    exact run_sort_failed loaded builtIn noHyphen short known failed rfl rfl
  · obtain ⟨line, refused⟩ :=
      (ofArguments_sort (Usage.lineWidth (site.environment.lookup Usage.columnsName)) noHyphen
        short).2 known
    rw [← builtIn] at refused
    obtain ⟨ending, ran, code, _⟩ := run_refused refused
    exact ⟨ending, ran, code⟩

end CommandLine

open Service (SortRequest)

/-- A reply and an ending show the same sorted integers: both are successes, and the two documents
have the integers as their values, one hash and the same figures. -/
structure SortedAlike (reply : Service.Reply) (ending : CommandLine.Ending)
    (sorted : List Int) : Prop where
  /-- The service met the request. -/
  status : reply.status = 200
  /-- The command was carried out. -/
  code : ending.code = CommandLine.succeeded
  /-- The documents agree. -/
  documents : ∃ replied shown : Json.Document, reply.body = .document replied ∧
    ending.output = Text.ofString shown.indented ++ "\n" ∧
    replied.member? "values" = some (.ofIntegers sorted) ∧
    ∀ name ∈ ([↑"values", ↑"hash", ↑"stats"] : List Text),
      ∃ member, replied.member? name = some member ∧ shown.member? name = some member

section

variable {site : Site} {settings : Settings}
  (loaded : Settings.load site.environment site.files none = .ok settings)
  (builtIn : site.registry = .builtIn) {request : SortRequest}
  (short : ∀ number ∈ request.values, IsShort number)
  (noHyphen : request.algorithm.symbols.head? ≠ some (.character '-'))
  (acceptable : request.IsAcceptable settings)

include loaded builtIn short noHyphen acceptable

/-- A request that can be met is, by both front ends alike, where the algorithm does not give up.
Both sort the same bench, and the judge, which only the service asks, accepts what is left. -/
theorem sortedAlike_of_stays (stays : ¬ request.GivesUp) :
    ∃ ending sorted, CommandLine.run site
        (CommandLine.sortArguments request.algorithm request.values) = .ok ending ∧
      SortedAlike (Service.answerSort site settings request) ending sorted ∧
        sorted.Perm request.values ∧ sorted.Pairwise (· ≤ ·) := by
  have known := Registry.mem_names.mp acceptable.known
  obtain ⟨gaveUp, _⟩ | ⟨_, bench, judged, same, ascending⟩ :=
    Registry.builtIn_sortJudged known _ (Value.isOrdered_integers request.values)
  · exact absurd gaveUp stays
  · obtain ⟨sorted, values, perm, pairwise⟩ := exists_ascending_integers same ascending
    rw [← builtIn] at judged
    obtain ⟨replied, shown, answered, written, valuesReplied, members⟩ :=
      Service.answerSorted_judged known judged values fun number member =>
        short number (perm.subset member)
    obtain ⟨left, _⟩ := Registry.sortJudged_eq_ok_iff.mp judged
    obtain ⟨performed, ended, code, document, again, _, output⟩ :=
      CommandLine.Request.shows_of_left
        (show (⟨none, none, .sort request.algorithm request.values⟩ : CommandLine.Request).command =
          _ from rfl)
        (CommandLine.sortNumbers_eq_ok_iff.mpr ⟨acceptable.within, left⟩) written
    -- A bench has one document: the one that is printed was compared with the reply.
    obtain rfl : shown = document := Except.ok.inj (written.symm.trans again)
    obtain ⟨ending, ran, sameCode, sameOutput⟩ :=
      CommandLine.run_sort loaded builtIn noHyphen short acceptable.known ended
    have reply : Service.answerSort site settings request = ⟨200, .document replied⟩ :=
      (if_neg (Int.not_lt.mpr acceptable.within)).trans answered
    rw [reply]
    refine ⟨ending, sorted, ran, ⟨rfl, sameCode.trans code, ?_⟩, perm, pairwise⟩
    exact ⟨replied, shown, rfl, sameOutput.trans output, valuesReplied, members⟩

/-- Where the algorithm gives up, the service cannot process a request, and the command fails.
Neither shows what was left. -/
theorem failed_of_givesUp (givesUp : request.GivesUp) :
    ∃ ending, CommandLine.run site
        (CommandLine.sortArguments request.algorithm request.values) = .ok ending ∧
      (Service.answerSort site settings request).status = 422 ∧
        ending.code = CommandLine.failed := by
  have known := Registry.mem_names.mp acceptable.known
  have ordered := Value.isOrdered_integers request.values
  -- The sort that is judged and the sort that is believed fail by the same fault.
  have judged : Registry.builtIn.sortJudged request.algorithm (request.values.map .integer) =
      .error Bench.tooDeep := by
    obtain ⟨_, failed⟩ | ⟨stays, _⟩ := Registry.builtIn_sortJudged known _ ordered
    · exact failed
    · exact absurd givesUp stays
  have sorted : CommandLine.sortNumbers .builtIn settings.limit request.algorithm request.values =
      .error Bench.tooDeep := by
    obtain ⟨_, failed⟩ | ⟨stays, _⟩ :=
      Registry.builtIn_sort_ascending known (Bench.ofList (request.values.map .integer)) rfl ordered
    · rw [CommandLine.sortNumbers, if_neg (Int.not_lt.mpr acceptable.within)]
      split
      case h_1 fault _ ended =>
        rw [ended] at failed
        rw [Except.error.inj failed]
      case h_2 ended =>
        rw [ended] at failed
        cases failed
    · exact absurd givesUp stays
  obtain ⟨ending, ran, code⟩ :=
    CommandLine.run_sort_failed loaded builtIn noHyphen short acceptable.known sorted rfl rfl
  refine ⟨ending, ran, ?_, code⟩
  rw [Service.answerSort, if_neg (Int.not_lt.mpr acceptable.within), Service.answerSorted, builtIn,
    judged]
  exact Service.status_replyToFault_exhausted _

end

/-- Under settings that were loaded and with the built-in algorithms, for short integers and an
algorithm whose name does not begin with a hyphen, the front ends agree on every request. It is
sorted by both, which show the same values, hash and figures, the values being the ascending
rearrangement of the integers; or both fail, when the algorithm gives up; or both refuse it, when
there are too many integers or the algorithm is unknown. Such a request can be posted whenever the
name is a string.

Proof: by cases on whether the request can be met and whether the algorithm gives up. In each case
the request and the arguments are read as the same integers and the same algorithm, so that both
front ends sort one bench. -/
theorem sorts_alike {site : Site} {settings : Settings}
    (loaded : Settings.load site.environment site.files none = .ok settings)
    (builtIn : site.registry = .builtIn) {request : SortRequest}
    (short : ∀ number ∈ request.values, IsShort number)
    (noHyphen : request.algorithm.symbols.head? ≠ some (.character '-')) :
    (request.algorithm.string?.isSome = true → Service.readSort request.body = .ok request) ∧
      ∀ body, Service.readSort body = .ok request →
        ∃ ending, CommandLine.run site
            (CommandLine.sortArguments request.algorithm request.values) = .ok ending ∧
          ((request.IsAcceptable settings ∧ ¬ request.GivesUp ∧ ∃ sorted,
              SortedAlike (Service.answer site settings ⟨"POST", "/sort", body⟩) ending sorted ∧
                sorted.Perm request.values ∧ sorted.Pairwise (· ≤ ·)) ∨
            (request.IsAcceptable settings ∧ request.GivesUp ∧
              (Service.answer site settings ⟨"POST", "/sort", body⟩).status = 422 ∧
                ending.code = CommandLine.failed) ∨
            (¬ request.IsAcceptable settings ∧
              (Service.answer site settings ⟨"POST", "/sort", body⟩).status = 400 ∧
                ending.code = CommandLine.misused)) := by
  refine ⟨Service.readSort_body short, ?_⟩
  intro body read
  rw [Service.answer_sort settings read]
  by_cases acceptable : request.IsAcceptable settings
  · by_cases givesUp : request.GivesUp
    · obtain ⟨ending, ran, failed⟩ :=
        failed_of_givesUp loaded builtIn short noHyphen acceptable givesUp
      exact ⟨ending, ran, Or.inr (Or.inl ⟨acceptable, givesUp, failed⟩)⟩
    · obtain ⟨ending, sorted, ran, alike⟩ :=
        sortedAlike_of_stays loaded builtIn short noHyphen acceptable givesUp
      exact ⟨ending, ran, Or.inl ⟨acceptable, givesUp, sorted, alike⟩⟩
  · obtain ⟨ending, ran, code⟩ :=
      CommandLine.run_sort_refused loaded builtIn noHyphen short acceptable
    have status := Service.status_answerSort_refused builtIn acceptable
    exact ⟨ending, ran, Or.inr (Or.inr ⟨acceptable, status, code⟩)⟩

/-- Two descending integers, one of them negative, are sorted by both front ends alike; an algorithm
that is not built in is refused by both. -/
theorem sorts_alike_descending :
    Settings.load [] [] none = .ok (.limited 10000) ∧
      (∃ ending sorted,
        CommandLine.run {} (CommandLine.sortArguments "bubble" [2, -1]) = .ok ending ∧
        SortedAlike (Service.answer {} (.limited 10000)
          ⟨"POST", "/sort", SortRequest.body ⟨[2, -1], "bubble"⟩⟩) ending sorted ∧
        sorted.Perm [2, -1] ∧ sorted.Pairwise (· ≤ ·)) ∧
      ∃ ending, CommandLine.run {} (CommandLine.sortArguments "merge" [2, -1]) = .ok ending ∧
        (Service.answer {} (.limited 10000)
          ⟨"POST", "/sort", SortRequest.body ⟨[2, -1], "merge"⟩⟩).status = 400 ∧
        ending.code = CommandLine.misused := by
  have loaded : Settings.load ({} : Site).environment ({} : Site).files none =
      .ok (.limited 10000) := rfl
  have short : ∀ number ∈ [2, -1], IsShort number := by decide
  refine ⟨loaded, ?_, ?_⟩
  · obtain ⟨posted, alike⟩ :=
      sorts_alike loaded rfl
        (show ∀ number ∈ (SortRequest.mk [2, -1] "bubble").values, _ from short)
        (show (↑"bubble" : Text).symbols.head? ≠ _ by decide)
    have stays : ¬ SortRequest.GivesUp ⟨[2, -1], "bubble"⟩ :=
      fun gaveUp => absurd gaveUp.1 (by decide)
    have acceptable : SortRequest.IsAcceptable ⟨[2, -1], "bubble"⟩ (.limited 10000) :=
      ⟨by decide, Registry.mem_names.mpr (by decide)⟩
    obtain ⟨ending, ran, ⟨_, _, sorted, shown⟩ | ⟨_, gaveUp, _⟩ | ⟨unacceptable, _⟩⟩ :=
      alike _ (posted rfl)
    · exact ⟨ending, sorted, ran, shown⟩
    · exact absurd gaveUp stays
    · exact absurd acceptable unacceptable
  · obtain ⟨posted, alike⟩ :=
      sorts_alike loaded rfl
        (show ∀ number ∈ (SortRequest.mk [2, -1] "merge").values, _ from short)
        (show (↑"merge" : Text).symbols.head? ≠ _ by decide)
    have unacceptable : ¬ SortRequest.IsAcceptable ⟨[2, -1], "merge"⟩ (.limited 10000) :=
      fun acceptable =>
        absurd (Registry.mem_names.mp acceptable.known) (by decide)
    obtain ⟨ending, ran, ⟨acceptable, _⟩ | ⟨acceptable, _⟩ | ⟨_, refused⟩⟩ := alike _ (posted rfl)
    · exact absurd acceptable unacceptable
    · exact absurd acceptable unacceptable
    · exact ⟨ending, ran, refused⟩

end SortBench
