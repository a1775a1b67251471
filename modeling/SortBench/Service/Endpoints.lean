import SortBench.Json.Reader
import SortBench.Program.Run
import SortBench.Service.Fields
import SortBench.Service.Reply
import SortBench.Site
import SortBench.Text.Encoding

/-!
# The service

Five addresses: the catalog, a run of one program, values of the register, sorting of posted
integers, and the state of the service. One line end after an address does not count, and an
address with slashes after it leads on to the one without. A request is first checked for its
address, then for its method, then for its body, and only then carried out. Every request that
asks for values is held against the limit of the settings before anything is computed.
-/

namespace SortBench.Service

open Json

/-- A request to the service. -/
structure Request where
  /-- The method. -/
  method : Text
  /-- The address. -/
  path : Text
  /-- The text of the body; no body is an empty text. -/
  body : Text

/-- What a request can be about. -/
inductive Endpoint where
  /-- The catalog. -/
  | programs
  /-- A run of a program. -/
  | run (name : Text)
  /-- Values of the register. -/
  | draw
  /-- Sorting of integers. -/
  | sort
  /-- The state of the service. -/
  | health
  deriving DecidableEq, Repr

namespace Endpoint

/-- The program of an address of the form `/programs/name/run`. -/
def runName? (path : Text) : Option Text :=
  let start : Text := "/programs/"
  let rest := path.symbols.drop start.length
  let name := rest.takeWhile fun (c : Text.Symbol) => c != '/'
  if path.beginsWith start && !name.isEmpty && (⟨rest.drop name.length⟩ : Text) == "/run" then
    some ⟨name⟩
  else
    none

/-- An address without the one line end that may follow it. -/
def withoutLineEnd (path : Text) : Text :=
  if path.symbols.getLast? == some (.character '\n') then ⟨path.symbols.dropLast⟩ else path

/-- What an address is about. -/
def ofPath? (path : Text) : Option Endpoint :=
  let address := withoutLineEnd path
  match address.string? with
  | some "/programs" => some programs
  | some "/lfsr" => some draw
  | some "/sort" => some sort
  | some "/health" => some health
  | _ => (runName? address).map run

/-- The address without the slashes after it, if there are such slashes and the address is then
about something. -/
def withoutSlashes? (path : Text) : Option Text :=
  let slash : Text.Symbol := '/'
  let address : Text := ⟨Text.dropEndWhile (· == slash) path.symbols⟩
  if path.symbols.getLast? == some slash && (ofPath? address).isSome then some address else none

/-- The method that an endpoint takes. -/
def method : Endpoint → Text
  | programs => "GET"
  | health => "GET"
  | run _ => "POST"
  | draw => "POST"
  | sort => "POST"

end Endpoint

/-- The reply to objections shows what was rejected. When that cannot be written plainly, the
reply is an internal error. -/
def replyToObjections (objections : List Objection) : Reply :=
  if objections.all fun objection => (disclosed objection.rejected).isPlain then
    ⟨422, .document (.object [("detail", .array (objections.map Objection.document))])⟩
  else .internalError

/-- What was checked, or the reply to all objections to it. -/
def accepted {α : Type} (checked : Checked α) : Except Reply α :=
  checked.mapError replyToObjections

/-- The document of a body; an empty body has none. -/
def readBody (body : Text) : Except Reply (Option Document) :=
  if body.isEmpty then .ok none
  else
    match Text.received body with
    | none => .error .unreadableBody
    | some content =>
      match Json.read content with
      | .ok document => .ok (some document)
      | .error (.misplaced index) => accepted (object .notDocument [.element index] .null)
      | .error .excessive => .error .unreadableBody

/-- A body that has to be there. -/
def readRequired {α : Type} (read : Document → Checked α) (body : Text) : Except Reply α :=
  match readBody body with
  | .error reply => .error reply
  | .ok none => accepted (object .missing [] .null)
  | .ok (some document) => accepted (readObject read document)

/-- Refuse a request for more values than the limit, if the number of values is written. The
limit always is, since it was read from a text. -/
def tooMany (size? : Option String) (limit : Int) : Reply :=
  match size? with
  | some size =>
    Reply.detail 400 ("Requested size " ++ size ++ " exceeds maximum " ++ Numeral.decimal limit)
  | none => .internalError

/-- Refuse a request for a number of values that the request or a program declares. -/
def tooManyDeclared (size limit : Int) : Reply :=
  tooMany (Numeral.written? Numeral.usualLimit size) limit

/-- Refuse a request that brings so many values. Their number is that of a list, and can always be
written. -/
def tooManyGiven (size : Nat) (limit : Int) : Reply :=
  tooMany (some (Numeral.decimal size)) limit

/-- A value as it is listed. A document of the service has no form for a number that is not
finite; null stands for it. -/
def listed : Value → Value
  | .real (.nan _) => .absent
  | .real (.infinite _) => .absent
  | value => value

/-- The integers of a specification: its declared size, its seed, and those of its literal. -/
def integersOf (spec : Spec) : List Int :=
  spec.size :: spec.seed :: spec.literal.first.filterMap fun
    | .integer number => some number
    | .item _ key _ => some key
    | _ => none

/-- The specifications of a catalog, if all their integers are written. One that is not makes the
whole reply an internal error. -/
def answerPrograms (catalog : Catalog) : Reply :=
  if catalog.specs.all fun spec => (integersOf spec).all fun number => Numeral.IsShort number then
    Reply.ok
      (.array
        (catalog.sorted.map fun spec =>
          { spec with literal := { first := spec.literal.first.map listed } }.document))
  else .internalError

/-- What is posted for a run: how many leading values to show, if that is limited. Nothing
and null post no limit. -/
def readRun (body : Text) : Except Reply (Option Int) :=
  match readBody body with
  | .error reply => .error reply
  | .ok none => .ok none
  | .ok (some .null) => .ok none
  | .ok (some document) =>
    accepted
      (readObject (field "show" (.ok none) fun path => readOptional (readInteger path)) document)

/-- Run a program and show leading values. Its declared size is held against the limit before it is
run. -/
def answerRun (site : Site) (settings : Settings) (name : Text) (shown : Option Int) : Reply :=
  match site.catalog.find? name with
  | none => Reply.detail 404 ("Program " ++ Text.quoted name ++ " not found")
  | some spec =>
    if settings.limit < spec.size then tooManyDeclared spec.size settings.limit
    else
      match ((spec.run site.registry).run.run {}).1 with
      | .error fault => replyToFault fault
      | .ok report => Reply.ok (report.document shown [])

/-- What is posted to draw values. -/
structure DrawRequest where
  /-- The seed, if one is chosen. -/
  seed : Option Int
  /-- How many values to draw. -/
  count : Int
  deriving DecidableEq, Repr

/-- Read what is posted to draw values. -/
def readDraw (body : Text) : Except Reply DrawRequest :=
  readRequired
    (fun document =>
      ((field "seed" (.ok none) (fun path => readOptional (readInteger path)) document).pair
        (field "count" (.ok 5) readInteger document)).map
        fun (seed, count) => { seed, count })
    body

/-- Draw values and answer with them and the final register. -/
def answerDraw (settings : Settings) (request : DrawRequest) : Reply :=
  let seed := request.seed.getD settings.seed
  if settings.limit < request.count then tooManyDeclared request.count settings.limit
  else
    match Generator.ofSeed seed with
    | .error cause => replyToFault (.precondition cause)
    | .ok generator =>
      match generator.take request.count with
      | .error cause => replyToFault (.precondition cause)
      | .ok (values, final) =>
        Reply.ok
          (.object
            [("seed", .integer seed), ("count", .integer request.count),
              ("values", .ofIntegers (values.map fun (value : Nat) => (value : Int))),
              ("register", .integer final.register)])

/-- What is posted to be sorted. -/
structure SortRequest where
  /-- The integers. -/
  values : List Int
  /-- The name of the algorithm. -/
  algorithm : Text
  deriving DecidableEq, Repr

/-- Read what is posted to be sorted. -/
def readSort (body : Text) : Except Reply SortRequest :=
  readRequired
    (fun document =>
      ((requiredField "values" readIntegers document).pair
        (field "algorithm" (.ok ("quick" : Text)) readText document)).map
        fun (values, algorithm) => { values, algorithm })
    body

/-- Sort integers with the algorithm of a name and answer with them. An algorithm of which it
is not recorded whether it keeps equal values in order cannot be answered for. -/
def answerSorted (registry : Registry) (values : List Int) (algorithm : Text) : Reply :=
  match registry.sortJudged algorithm (values.map .integer) with
  | .error fault => replyToFault fault
  | .ok bench =>
    match Algorithm.stable? algorithm, Canonical.digest bench.values.toList with
    | some stable, .ok digest =>
      Reply.ok
        (.object
          [("algorithm", .text algorithm), ("stable", .boolean stable),
            ("values", Value.documents bench.values.toList), ("hash", .text digest),
            ("stats", .ofFigures (bench.tally.getD {}).figures)])
    | _, _ => .internalError

/-- Answer a request to sort. The limit comes first, then the algorithm is looked up, and what it
leaves is judged. -/
def answerSort (site : Site) (settings : Settings) (request : SortRequest) : Reply :=
  if settings.limit < request.values.length then
    tooManyGiven request.values.length settings.limit
  else answerSorted site.registry request.values request.algorithm

/-- The state of the service. -/
def answerHealth (settings : Settings) : Reply :=
  Reply.ok
    (.object
      [("status", .text "ok"), ("seed", .integer settings.seed),
        ("max_size", .integer settings.limit)])

/-- Answer what was posted, unless it was refused with a reply of its own. -/
def answerPosted {α : Type} (posted : Except Reply α) (answer : α → Reply) : Reply :=
  match posted with
  | .ok content => answer content
  | .error reply => reply

/-- Answer a request that reached an endpoint by its method. -/
def Endpoint.answer (site : Site) (settings : Settings) (body : Text) : Endpoint → Reply
  | programs => answerPrograms site.catalog
  | run name => answerPosted (readRun body) (answerRun site settings name)
  | draw => answerPosted (readDraw body) (answerDraw settings)
  | sort => answerPosted (readSort body) (answerSort site settings)
  | health => answerHealth settings

/-- Answer a request under given settings. Each request is answered on its own, and leaves nothing
behind for the next. -/
def answer (site : Site) (settings : Settings) (request : Request) : Reply :=
  match Endpoint.ofPath? request.path with
  | none => (Endpoint.withoutSlashes? request.path).elim .notFound .elsewhere
  | some endpoint =>
    if request.method == endpoint.method then endpoint.answer site settings request.body
    else .methodNotAllowed

end SortBench.Service
