import AnnyRuntime.Execution.Models
import AnnyRuntime.Json.Dataclass
import AnnyRuntime.Json.Indent
import AnnyRuntime.Json.Number
import AnnyRuntime.Json.Sorted
import AnnyRuntime.Lib.DateTime
import AnnyRuntime.Lib.Dict
import AnnyRuntime.Lib.Path
import AnnyRuntime.Lib.PyString
import AnnyRuntime.Lib.Text
import AnnyRuntime.Lib.Transition

/-!
# The store of scorecards

Every scorecard is in a file of its own, whose name is its id with a `_` for every `/` and `.`.  A
status is changed by listing all files and writing those of the cards that are meant again.

* `fromDict_toDict` : a file holds the card that was saved, when JSON knows its values.
* `mark_spec` : **marking changes the status of the cards that are meant**, and of no other.
* `scorecards_faithful_iff` : **over a run the store keeps all its cards exactly when no card is
  saved under the file name of another one**, and JSON knows the values of every card.
-/

namespace AnnyRuntime

namespace Benchmarks

open Execution (CertificationStatus)

/-! ### Scorecards -/

/-- All certification statuses. -/
def allStatuses : List CertificationStatus :=
  [.certified, .stale, .requiresRebenchmark, .revoked, .valid]

/-- `CertificationStatus(v)`, or a `ValueError`. -/
def statusOfValue (v : Json) : Option CertificationStatus :=
  allStatuses.find? fun s => v = .str s.value

theorem statusOfValue_value (s : CertificationStatus) : statusOfValue (.str s.value) = some s := by
  cases s <;> rfl

/-- `BenchmarkScorecard`.  Nothing checks the types of its values. -/
structure BenchmarkScorecard where
  (scorecardId capabilityId implementationId implementationRevision benchmarkVersion
    datasetVersion : PyVal)
  (score confidence latencyP50 latencyP95 latencyP99 : PyFloat)
  resourceUsage : PyVal
  certificationStatus : CertificationStatus
  hardwareProfile : PyVal := .none
  adapterRevision : PyVal := .none
  createdAt : Option DateTime := none

/-- What the store takes from elsewhere. -/
structure Library where
  arith : FloatArith
  /-- `float(v)`, unless it raises. -/
  float : Json → Option PyFloat
  /-- `str` of a time. -/
  str : DateTime → String
  /-- `datetime.fromisoformat`, or a `ValueError`. -/
  fromisoformat : String → Option DateTime
  /-- Whether a file of this name can be opened for writing. -/
  openable : String → Bool

/-- The text of a time, as it is read: `s.replace("Z", "+00:00")`. -/
def zoned (s : String) : String :=
  String.ofList (Text.replaceAll ['Z'] "+00:00".toList s.toList)

/-- A float is itself, and a time is read from its text. -/
structure Library.Lawful (L : Library) : Prop where
  float_float : ∀ x, L.float (.float x) = some x
  fromisoformat_str : ∀ t, L.fromisoformat (zoned (L.str t)) = some t
  str_ne : ∀ t, L.str t ≠ ""

/-- The float `0.0`. -/
def zeroFloat : PyFloat := .lit ⟨"0.0".toList, by decide⟩

namespace BenchmarkScorecard

variable (L : Library) (sc : BenchmarkScorecard)

/-- `_to_dict`. -/
def toDict : List (String × PyVal) :=
  [("scorecard_id", sc.scorecardId), ("capability_id", sc.capabilityId),
    ("implementation_id", sc.implementationId),
    ("implementation_revision", sc.implementationRevision),
    ("benchmark_version", sc.benchmarkVersion), ("dataset_version", sc.datasetVersion),
    ("score", .float sc.score), ("confidence", .float sc.confidence),
    ("latency_p50", .float sc.latencyP50), ("latency_p95", .float sc.latencyP95),
    ("latency_p99", .float sc.latencyP99), ("resource_usage", sc.resourceUsage),
    ("certification_status", .str sc.certificationStatus.value),
    ("hardware_profile", sc.hardwareProfile), ("adapter_revision", sc.adapterRevision),
    ("created_at", (sc.createdAt.map fun t => .str (L.str t)).getD .none)]

/-- What `json.dump(data, f, indent=2, default=str)` writes, unless it raises. -/
def encoded : Option Json := (PyVal.ofMembers (sc.toDict L)).encode false

/-- The time that a value of `created_at` is read as; what cannot be read is no time. -/
def readTime (v : Option Json) : Option DateTime :=
  match v with
  | some (.str s) => if s = "" then none else L.fromisoformat (zoned s)
  | _ => none

/-- `_from_dict`, unless it raises. -/
def fromDict (d : Json) : Option BenchmarkScorecard :=
  match d with
  | .obj ms => do
    let scorecardId ← Json.lookup "scorecard_id" ms
    let capabilityId ← Json.lookup "capability_id" ms
    let implementationId ← Json.lookup "implementation_id" ms
    let implementationRevision ← Json.lookup "implementation_revision" ms
    let benchmarkVersion ← Json.lookup "benchmark_version" ms
    let datasetVersion ← Json.lookup "dataset_version" ms
    let score ← (Json.lookup "score" ms).bind L.float
    let confidence ← (Json.lookup "confidence" ms).bind L.float
    let latencyP50 ← (Json.lookup "latency_p50" ms).bind L.float
    let latencyP95 ← (Json.lookup "latency_p95" ms).bind L.float
    let latencyP99 ← L.float ((Json.lookup "latency_p99" ms).getD (.float zeroFloat))
    let certificationStatus ← (Json.lookup "certification_status" ms).bind statusOfValue
    return {
      scorecardId := .ofJson scorecardId
      capabilityId := .ofJson capabilityId
      implementationId := .ofJson implementationId
      implementationRevision := .ofJson implementationRevision
      benchmarkVersion := .ofJson benchmarkVersion
      datasetVersion := .ofJson datasetVersion
      score := score
      confidence := confidence
      latencyP50 := latencyP50
      latencyP95 := latencyP95
      latencyP99 := latencyP99
      resourceUsage := .ofJson ((Json.lookup "resource_usage" ms).getD (.obj []))
      certificationStatus := certificationStatus
      hardwareProfile := .ofJson ((Json.lookup "hardware_profile" ms).getD .null)
      adapterRevision := .ofJson ((Json.lookup "adapter_revision" ms).getD .null)
      createdAt := readTime L (Json.lookup "created_at" ms) }
  | _ => none

/-- The card is of this capability and implementation. -/
def isOf (capabilityId implementationId : String) : Bool :=
  sc.capabilityId.beq (.str capabilityId) && sc.implementationId.beq (.str implementationId)

end BenchmarkScorecard

/-- The card that a file is read as, unless reading it raises. -/
def readScorecard (L : Library) (file : ByteArray) : Option BenchmarkScorecard :=
  ((Text.decode file).bind Json.loads).bind (BenchmarkScorecard.fromDict L)

/-! ### The store -/

/-- What is in a file when `json.dump` raises in the middle: a text that is not JSON. -/
structure Unfinished where
  text : List Char
  unreadable : Json.loads text = none

/-- What a call raises. -/
inductive Raised where
  | attributeError
  /-- The file is not opened. -/
  | osError
  /-- A value has no JSON text. -/
  | notSerializable
  deriving DecidableEq

/-- The name of the file of a card, in the directory of the store. -/
def fileName (scorecardId : String) : String :=
  String.ofList (Text.replaceAll ['.'] ['_'] (Text.replaceAll ['/'] ['_'] scorecardId.toList)) ++
    ".json"

/-- `BenchmarkStore`: its directory, and the files in it. -/
structure BenchmarkStore where
  storeDir : String
  files : Dict String ByteArray

namespace BenchmarkStore

variable (L : Library) (s : BenchmarkStore)

/-- `_filename`. -/
def filename (scorecardId : String) : String :=
  String.ofList (AbsPath.join s.storeDir.toList (fileName scorecardId).toList)

/-- A store with a written file. -/
def write (name : String) (text : List Char) : BenchmarkStore :=
  { s with files := s.files.set name (Text.encode text) }

/-- `save_scorecard`. -/
def saveScorecard (sc : BenchmarkScorecard) (unfinished : Unfinished) :
    Except Raised String × BenchmarkStore :=
  match sc.scorecardId with
  | .str id =>
    if L.openable (fileName id) then
      match sc.encoded L with
      | some j => (.ok (s.filename id), s.write (fileName id) (Json.dumpsIndent 0 j))
      | none => (.error .notSerializable, s.write (fileName id) unfinished.text)
    else (.error .osError, s)
  | _ => (.error .attributeError, s)

/-- The card in a file, when there is one. -/
def read (name : String) : Option BenchmarkScorecard := (s.files.get? name).bind (readScorecard L)

/-- `load_scorecard`. -/
def loadScorecard (scorecardId : String) : Option BenchmarkScorecard :=
  s.read L (fileName scorecardId)

/-- `list_scorecards`, when the directory is listed in an order. -/
def listScorecards (names : List String) : List BenchmarkScorecard :=
  (names.filter fun n => ".json".toList.isSuffixOf n.toList).filterMap (s.read L)

/-- Cards that are saved again with a status, as many as are meant. -/
def mark (status : CertificationStatus) (capabilityId implementationId : String)
    (unfinished : Unfinished) : List BenchmarkScorecard → BenchmarkStore →
    Except Raised ℕ × BenchmarkStore
  | [], s => (.ok 0, s)
  | sc :: rest, s =>
    if sc.isOf capabilityId implementationId then
      match s.saveScorecard L { sc with certificationStatus := status } unfinished with
      | (.error e, s') => (.error e, s')
      | (.ok _, s') =>
        let marked := mark status capabilityId implementationId unfinished rest s'
        (marked.1.map (· + 1), marked.2)
    else mark status capabilityId implementationId unfinished rest s

/-- `mark_stale`. -/
def markStale (names : List String) (capabilityId implementationId : String)
    (unfinished : Unfinished) : Except Raised ℕ × BenchmarkStore :=
  mark L .stale capabilityId implementationId unfinished (s.listScorecards L names) s

/-- `revoke`. -/
def revoke (names : List String) (capabilityId implementationId : String)
    (unfinished : Unfinished) : Except Raised ℕ × BenchmarkStore :=
  mark L .revoked capabilityId implementationId unfinished (s.listScorecards L names) s

/-- The first of two cards with the larger score. -/
def better (best sc : BenchmarkScorecard) : BenchmarkScorecard :=
  if PyNumber.lt L.arith (.float best.score) (.float sc.score) then sc else best

/-- `best_scorecard`. -/
def bestScorecard (names : List String) (capabilityId : String) : Option BenchmarkScorecard :=
  let candidates := (s.listScorecards L names).filter fun sc =>
    sc.capabilityId.beq (.str capabilityId) && sc.certificationStatus = .certified
  match candidates with
  | [] => none
  | sc :: rest => some (rest.foldl (better L) sc)

end BenchmarkStore

/-! ### Cards in files -/

/-- What is read of a value that was written. -/
def reread (v : PyVal) : PyVal := ((v.encode false).map PyVal.ofJson).getD .none

theorem reread_ofJson (j : Json) : reread (.ofJson j) = .ofJson j := by
  rw [reread, PyVal.encode_ofJson]
  rfl

theorem exists_reread (v : PyVal) : ∃ j, reread v = .ofJson j := by
  unfold reread
  cases v.encode false with
  | none => exact ⟨.null, rfl⟩
  | some j => exact ⟨j, rfl⟩

namespace BenchmarkScorecard

/-- The values of a card whose types nothing fixes. -/
def values (sc : BenchmarkScorecard) : List PyVal :=
  [sc.scorecardId, sc.capabilityId, sc.implementationId, sc.implementationRevision,
    sc.benchmarkVersion, sc.datasetVersion, sc.resourceUsage, sc.hardwareProfile,
    sc.adapterRevision]

/-- JSON knows all values of the card. -/
def Plain (sc : BenchmarkScorecard) : Prop := ∀ v ∈ sc.values, ∃ j, v = PyVal.ofJson j

/-- What is read of a card that was written. -/
def reread (sc : BenchmarkScorecard) : BenchmarkScorecard :=
  { sc with
    scorecardId := Benchmarks.reread sc.scorecardId
    capabilityId := Benchmarks.reread sc.capabilityId
    implementationId := Benchmarks.reread sc.implementationId
    implementationRevision := Benchmarks.reread sc.implementationRevision
    benchmarkVersion := Benchmarks.reread sc.benchmarkVersion
    datasetVersion := Benchmarks.reread sc.datasetVersion
    resourceUsage := Benchmarks.reread sc.resourceUsage
    hardwareProfile := Benchmarks.reread sc.hardwareProfile
    adapterRevision := Benchmarks.reread sc.adapterRevision }

variable {L : Library} {sc : BenchmarkScorecard} {j : Json}

theorem values_reread (sc : BenchmarkScorecard) :
    sc.reread.values = sc.values.map Benchmarks.reread := rfl

theorem plain_reread (sc : BenchmarkScorecard) : sc.reread.Plain := by
  intro v hv
  rw [values_reread] at hv
  obtain ⟨w, -, rfl⟩ := List.mem_map.1 hv
  exact exists_reread w

/-- **A card that JSON knows** is read as it was written. -/
theorem reread_eq (h : sc.Plain) : sc.reread = sc := by
  have hfix (v : PyVal) (hv : v ∈ sc.values) : Benchmarks.reread v = v := by
    obtain ⟨j, rfl⟩ := h v hv
    exact reread_ofJson j
  simp [values] at hfix
  unfold reread
  simp [hfix]

end BenchmarkScorecard

/-- The members that are written of a dictionary. -/
theorem lookup_of_encode {ms : List (String × PyVal)} (hms : (ms.map Prod.fst).Nodup) {j : Json}
    (h : (PyVal.ofMembers ms).encode false = some j) :
    ∃ js, j = .obj js ∧ ∀ k v, (k, v) ∈ ms →
      ∃ i, v.encode false = some i ∧ Json.lookup k js = some i := by
  have hmembers : ∀ {ms : List (String × PyVal)} {js : List (String × Json)},
      PyVal.encodeMembers false (ms.map fun m => (.str m.1, m.2)) = some js →
        js.map Prod.fst = ms.map Prod.fst ∧
          ∀ k v, (k, v) ∈ ms → ∃ i, v.encode false = some i ∧ (k, i) ∈ js := by
    intro ms
    induction ms with
    | nil =>
      intro js hjs
      obtain rfl := Option.some.inj hjs
      simp
    | cons m ms ih =>
      intro js hjs
      rw [List.map_cons, PyVal.encodeMembers, PyKey.text?, Option.bind_some,
        Option.bind_eq_some_iff] at hjs
      obtain ⟨i, hi, hjs⟩ := hjs
      obtain ⟨js', hjs', rfl⟩ := Option.map_eq_some_iff.1 hjs
      obtain ⟨hkeys, hmem⟩ := ih hjs'
      refine ⟨by simp [hkeys], fun k v hkv => ?_⟩
      rcases List.mem_cons.1 hkv with rfl | hkv
      · exact ⟨i, hi, List.mem_cons_self⟩
      · obtain ⟨i', hi', hin⟩ := hmem k v hkv
        exact ⟨i', hi', List.mem_cons_of_mem _ hin⟩
  rw [PyVal.ofMembers, PyVal.encode, Bool.false_and, if_neg (by simp)] at h
  obtain ⟨js, hjs, rfl⟩ := Option.map_eq_some_iff.1 h
  obtain ⟨hkeys, hmem⟩ := hmembers hjs
  refine ⟨js, rfl, fun k v hkv => ?_⟩
  obtain ⟨i, hi, hin⟩ := hmem k v hkv
  exact ⟨i, hi, Json.lookup_of_mem (hkeys ▸ hms) hin⟩

/-- **A card that was written** is read as what JSON has for its values. -/
theorem fromDict_encoded {L : Library} (hL : L.Lawful) {sc : BenchmarkScorecard} {j : Json}
    (h : sc.encoded L = some j) : BenchmarkScorecard.fromDict L j = some sc.reread := by
  have hkeys : ((sc.toDict L).map Prod.fst).Nodup := by simp [BenchmarkScorecard.toDict]
  obtain ⟨js, rfl, hlookup⟩ := lookup_of_encode hkeys h
  -- what is found under the name of a float, of the status, of the time and of any value
  have hfloat (k : String) (x : PyFloat) (hk : (k, .float x) ∈ sc.toDict L) :
      Json.lookup k js = some (.float x) := by
    obtain ⟨i, hi, hlook⟩ := hlookup k _ hk
    exact hlook.trans hi.symm
  have hstatus : Json.lookup "certification_status" js =
      some (.str sc.certificationStatus.value) := by
    obtain ⟨i, hi, hlook⟩ := hlookup "certification_status" (.str sc.certificationStatus.value)
      (by simp [BenchmarkScorecard.toDict])
    exact hlook.trans hi.symm
  have htime : BenchmarkScorecard.readTime L (Json.lookup "created_at" js) = sc.createdAt := by
    obtain ⟨i, hi, hlook⟩ := hlookup "created_at"
      ((sc.createdAt.map fun t => .str (L.str t)).getD .none)
      (by simp [BenchmarkScorecard.toDict])
    rw [hlook, ← hi]
    cases sc.createdAt with
    | none => rfl
    | some t =>
      change (if L.str t = "" then none else L.fromisoformat (zoned (L.str t))) = some t
      rw [if_neg (hL.str_ne t), hL.fromisoformat_str]
  have hvalue (k : String) (v : PyVal) (hk : (k, v) ∈ sc.toDict L) :
      ∃ i, Json.lookup k js = some i ∧ reread v = .ofJson i := by
    obtain ⟨i, hi, hlook⟩ := hlookup k v hk
    exact ⟨i, hlook, by rw [reread, hi]; rfl⟩
  obtain ⟨i₁, h₁, hr₁⟩ := hvalue "scorecard_id" sc.scorecardId (by simp [BenchmarkScorecard.toDict])
  obtain ⟨i₂, h₂, hr₂⟩ := hvalue "capability_id" sc.capabilityId
    (by simp [BenchmarkScorecard.toDict])
  obtain ⟨i₃, h₃, hr₃⟩ := hvalue "implementation_id" sc.implementationId
    (by simp [BenchmarkScorecard.toDict])
  obtain ⟨i₄, h₄, hr₄⟩ := hvalue "implementation_revision" sc.implementationRevision
    (by simp [BenchmarkScorecard.toDict])
  obtain ⟨i₅, h₅, hr₅⟩ := hvalue "benchmark_version" sc.benchmarkVersion
    (by simp [BenchmarkScorecard.toDict])
  obtain ⟨i₆, h₆, hr₆⟩ := hvalue "dataset_version" sc.datasetVersion
    (by simp [BenchmarkScorecard.toDict])
  obtain ⟨i₇, h₇, hr₇⟩ := hvalue "resource_usage" sc.resourceUsage
    (by simp [BenchmarkScorecard.toDict])
  obtain ⟨i₈, h₈, hr₈⟩ := hvalue "hardware_profile" sc.hardwareProfile
    (by simp [BenchmarkScorecard.toDict])
  obtain ⟨i₉, h₉, hr₉⟩ := hvalue "adapter_revision" sc.adapterRevision
    (by simp [BenchmarkScorecard.toDict])
  have hscore := hfloat "score" sc.score (by simp [BenchmarkScorecard.toDict])
  have hconfidence := hfloat "confidence" sc.confidence (by simp [BenchmarkScorecard.toDict])
  have hp50 := hfloat "latency_p50" sc.latencyP50 (by simp [BenchmarkScorecard.toDict])
  have hp95 := hfloat "latency_p95" sc.latencyP95 (by simp [BenchmarkScorecard.toDict])
  have hp99 := hfloat "latency_p99" sc.latencyP99 (by simp [BenchmarkScorecard.toDict])
  simp only [BenchmarkScorecard.fromDict, h₁, h₂, h₃, h₄, h₅, h₆, h₇, h₈, h₉, hscore, hconfidence,
    hp50, hp95, hp99, hstatus, htime, hL.float_float, statusOfValue_value, Option.bind_eq_bind,
    Option.bind_some, Option.getD_some, Option.pure_def, BenchmarkScorecard.reread, hr₁, hr₂, hr₃,
    hr₄, hr₅, hr₆, hr₇, hr₈, hr₉]

/-- The card in a file that was written. -/
theorem readScorecard_encode {L : Library} (hL : L.Lawful) {sc : BenchmarkScorecard} {j : Json}
    (h : sc.encoded L = some j) :
    readScorecard L (Text.encode (Json.dumpsIndent 0 j)) = some sc.reread := by
  rw [readScorecard, Text.decode_encode, Option.bind_some, Json.loads_dumpsIndent,
    Option.bind_some, fromDict_encoded hL h]

theorem readScorecard_unfinished (L : Library) (u : Unfinished) :
    readScorecard L (Text.encode u.text) = none := by
  rw [readScorecard, Text.decode_encode, Option.bind_some, u.unreadable, Option.bind_none]

/-- A card that JSON knows has a text. -/
theorem encoded_of_plain (L : Library) {sc : BenchmarkScorecard} (h : sc.Plain) :
    ∃ j, sc.encoded L = some j := by
  have hmembers : ∀ ms : List (String × PyVal), (∀ m ∈ ms, ∃ j, m.2 = PyVal.ofJson j) →
      ∃ js, PyVal.ofMembers ms = .ofJson (.obj js) := by
    intro ms
    induction ms with
    | nil => exact fun _ => ⟨[], rfl⟩
    | cons m ms ih =>
      intro hms
      rw [List.forall_mem_cons] at hms
      obtain ⟨⟨j, hj⟩, hms⟩ := hms
      obtain ⟨js, hjs⟩ := ih hms
      refine ⟨(m.1, j) :: js, ?_⟩
      rw [PyVal.ofMembers, PyVal.ofJson, PyVal.dict.injEq] at hjs
      rw [PyVal.ofMembers, List.map_cons, hjs, hj]
      rfl
  obtain ⟨js, hjs⟩ := hmembers (sc.toDict L) (by
    simp only [BenchmarkScorecard.Plain, BenchmarkScorecard.values, List.forall_mem_cons] at h
    obtain ⟨h₁, h₂, h₃, h₄, h₅, h₆, h₇, h₈, h₉, -⟩ := h
    have htime : ∃ j, ((sc.createdAt.map fun t => PyVal.str (L.str t)).getD .none) = .ofJson j := by
      cases sc.createdAt with
      | none => exact ⟨.null, rfl⟩
      | some t => exact ⟨.str (L.str t), rfl⟩
    simp only [BenchmarkScorecard.toDict, List.forall_mem_cons]
    exact ⟨h₁, h₂, h₃, h₄, h₅, h₆, ⟨.float _, rfl⟩, ⟨.float _, rfl⟩, ⟨.float _, rfl⟩,
      ⟨.float _, rfl⟩, ⟨.float _, rfl⟩, h₇, ⟨.str _, rfl⟩, h₈, h₉, htime, by simp⟩)
  exact ⟨.obj js, by rw [BenchmarkScorecard.encoded, hjs, PyVal.encode_ofJson]⟩

theorem isSuffixOf_fileName (id : String) :
    ".json".toList.isSuffixOf (fileName id).toList = true := by
  rw [fileName, String.toList_append, List.isSuffixOf_iff_suffix]
  exact List.suffix_append _ _

/-! ### Calls -/

/-- The card, with a status if it is meant. -/
def BenchmarkScorecard.marked (status : CertificationStatus)
    (capabilityId implementationId : String) (sc : BenchmarkScorecard) : BenchmarkScorecard :=
  if sc.isOf capabilityId implementationId then { sc with certificationStatus := status } else sc

/-- The cards that were saved, under their ids. -/
abbrev Cards := Dict String BenchmarkScorecard

/-- What is called. -/
inductive Call where
  | save (sc : BenchmarkScorecard) (unfinished : Unfinished)
  | markStale (names : List String) (capabilityId implementationId : String)
      (unfinished : Unfinished)
  | revoke (names : List String) (capabilityId implementationId : String) (unfinished : Unfinished)

namespace BenchmarkStore

/-- The store after a call. -/
def after (L : Library) (s : BenchmarkStore) : Call → BenchmarkStore
  | .save sc u => (s.saveScorecard L sc u).2
  | .markStale names capabilityId implementationId u =>
    (s.markStale L names capabilityId implementationId u).2
  | .revoke names capabilityId implementationId u =>
    (s.revoke L names capabilityId implementationId u).2

/-- The directory is listed as it is. -/
def Lists (s : BenchmarkStore) : Call → Prop
  | .save _ _ => True
  | .markStale names _ _ _ | .revoke names _ _ _ => names.Perm s.files.keys

end BenchmarkStore

/-- The cards after a call: one is saved when the call returns, and those that are meant are
marked. -/
def recorded (L : Library) (cards : Cards) (s : BenchmarkStore) : Call → Cards
  | .save sc u =>
    match sc.scorecardId, (s.saveScorecard L sc u).1 with
    | .str id, .ok _ => cards.set id sc
    | _, _ => cards
  | .markStale _ capabilityId implementationId _ =>
    cards.map (BenchmarkScorecard.marked .stale capabilityId implementationId)
  | .revoke _ capabilityId implementationId _ =>
    cards.map (BenchmarkScorecard.marked .revoked capabilityId implementationId)

/-- The cards that were saved, and the store, after some calls for a new directory. -/
def run (L : Library) (storeDir : String) (cs : List Call) : Cards × BenchmarkStore :=
  cs.foldl (fun p c => (recorded L p.1 p.2 c, p.2.after L c)) (.empty, ⟨storeDir, .empty⟩)

/-- The store has the cards that were saved. -/
structure Faithful (L : Library) (cards : Cards) (s : BenchmarkStore) : Prop where
  loaded : ∀ id sc, cards.get? id = some sc → s.loadScorecard L id = some sc
  /-- One card for every id. -/
  listed : ∀ names, names.Perm s.files.keys → (s.listScorecards L names).Perm cards.values
  best : ∀ names capabilityId sc, names.Perm s.files.keys →
    s.bestScorecard L names capabilityId = some sc →
    (∃ id, cards.get? id = some sc) ∧ sc.certificationStatus ≠ .stale ∧
      sc.certificationStatus ≠ .revoked

/-- The card is not saved in the file of another one, and JSON knows its values; a card that cannot
be written is not saved in any file that there is. -/
def Apart (L : Library) (cards : Cards) : Call → Prop
  | .save sc _ => ∀ id, sc.scorecardId = .str id → L.openable (fileName id) = true →
    (sc.encoded L ≠ none → sc.Plain ∧
      ∀ id', fileName id' = fileName id → cards.get? id' ≠ none → id' = id) ∧
    (sc.encoded L = none → ∀ id', fileName id' = fileName id → cards.get? id' = none)
  | _ => True

/-- What the calls keep: every card is in the file of its id, and every file that is read has the
card of its name. -/
structure Kept (L : Library) (cards : Cards) (s : BenchmarkStore) : Prop where
  own : ∀ id sc, cards.get? id = some sc →
    sc.scorecardId = .str id ∧ sc.Plain ∧ L.openable (fileName id) = true
  written : ∀ id sc, cards.get? id = some sc → s.read L (fileName id) = some sc
  named : ∀ name sc, s.read L name = some sc → ∃ id, name = fileName id ∧ cards.get? id = some sc

variable {L : Library} {cards : Cards} {s : BenchmarkStore} {sc : BenchmarkScorecard}
  {id capabilityId implementationId : String} {status : CertificationStatus}

namespace BenchmarkStore

/-- **What saving does**, for a card that is written. -/
theorem saveScorecard_eq {j : Json} (hid : sc.scorecardId = .str id)
    (hopen : L.openable (fileName id) = true) (hj : sc.encoded L = some j) (u : Unfinished) :
    s.saveScorecard L sc u =
      (.ok (s.filename id), s.write (fileName id) (Json.dumpsIndent 0 j)) := by
  simp [saveScorecard, hid, hopen, hj]

/-- And for a card that cannot be written. -/
theorem saveScorecard_unfinished (hid : sc.scorecardId = .str id)
    (hopen : L.openable (fileName id) = true) (hj : sc.encoded L = none) (u : Unfinished) :
    s.saveScorecard L sc u = (.error .notSerializable, s.write (fileName id) u.text) := by
  simp [saveScorecard, hid, hopen, hj]

theorem read_write (name name' : String) (text : List Char) :
    (s.write name text).read L name' =
      if name' = name then readScorecard L (Text.encode text) else s.read L name' := by
  rw [read, write, Dict.get?_set]
  split_ifs
  · rfl
  · rfl

/-! ### Marking -/

/-- The file of every card that is read has the name of its id, and can be written. -/
def Named (L : Library) (s : BenchmarkStore) : Prop :=
  ∀ name sc, s.read L name = some sc → ∃ id, sc.scorecardId = .str id ∧ name = fileName id ∧
    sc.Plain ∧ L.openable (fileName id) = true

/-- Saving the marked card in its file. -/
theorem saveScorecard_marked (hL : L.Lawful) (hid : sc.scorecardId = .str id)
    (hopen : L.openable (fileName id) = true) (hplain : sc.Plain) (status : CertificationStatus)
    (u : Unfinished) : ∃ text,
      s.saveScorecard L { sc with certificationStatus := status } u =
        (.ok (s.filename id), s.write (fileName id) text) ∧
      readScorecard L (Text.encode text) = some { sc with certificationStatus := status } := by
  have hplain' : BenchmarkScorecard.Plain { sc with certificationStatus := status } := hplain
  have hid' : BenchmarkScorecard.scorecardId { sc with certificationStatus := status } = .str id :=
    hid
  obtain ⟨j, hj⟩ := encoded_of_plain L hplain'
  exact ⟨_, saveScorecard_eq hid' hopen hj u,
    (readScorecard_encode hL hj).trans (congrArg some (BenchmarkScorecard.reread_eq hplain'))⟩

/-- **Marking some cards of a store**, when others may be marked already: a file has its card
marked, or it is not one of theirs and is as it was. -/
theorem read_mark (hL : L.Lawful) (u : Unfinished) {s₀ : BenchmarkStore} (hs₀ : s₀.Named L)
    {scs : List BenchmarkScorecard} (hscs : ∀ sc ∈ scs, ∃ name, s₀.read L name = some sc)
    (hs : ∀ name, s.read L name = s₀.read L name ∨
      s.read L name = (s₀.read L name).map (.marked status capabilityId implementationId))
    (name : String) :
    (mark L status capabilityId implementationId u scs s).2.read L name =
        (s₀.read L name).map (.marked status capabilityId implementationId) ∨
      (mark L status capabilityId implementationId u scs s).2.read L name = s₀.read L name ∧
        s.read L name = s₀.read L name ∧ ∀ sc ∈ scs, s₀.read L name ≠ some sc := by
  induction scs generalizing s with
  | nil =>
    rcases hs name with h | h
    · exact .inr ⟨h, h, by simp⟩
    · exact .inl h
  | cons sc scs ih =>
    rw [List.forall_mem_cons] at hscs
    obtain ⟨⟨file, hfile⟩, hscs⟩ := hscs
    obtain ⟨id, hid, rfl, hplain, hopen⟩ := hs₀ file sc hfile
    -- the only file with this card
    have hname (hread : s₀.read L name = some sc) : name = fileName id := by
      obtain ⟨id', hid', rfl, -, -⟩ := hs₀ name sc hread
      rw [PyVal.str.inj (hid'.symm.trans hid)]
    by_cases hof : sc.isOf capabilityId implementationId = true
    · have hmarked : (s₀.read L (fileName id)).map
          (.marked status capabilityId implementationId) =
            some { sc with certificationStatus := status } := by
        rw [hfile, Option.map_some, BenchmarkScorecard.marked, if_pos hof]
      obtain ⟨text, hsave, hread⟩ := saveScorecard_marked (s := s) hL hid hopen hplain status u
      have hwrite (name : String) : (s.write (fileName id) text).read L name =
          if name = fileName id then some { sc with certificationStatus := status }
          else s.read L name := by
        rw [read_write, hread]
      rw [mark, if_pos hof, hsave]
      have hs' : ∀ name, (s.write (fileName id) text).read L name = s₀.read L name ∨
          (s.write (fileName id) text).read L name =
            (s₀.read L name).map (.marked status capabilityId implementationId) := by
        intro name
        rw [hwrite]
        split_ifs with heq
        · exact .inr (by rw [heq, hmarked])
        · exact hs name
      rcases ih hscs hs' with h | ⟨h, hold, hno⟩
      · exact .inl h
      · rw [hwrite] at hold
        split_ifs at hold with heq
        · -- the file of this card
          refine .inl (h.trans (hold.symm.trans ?_))
          rw [heq, hmarked]
        · exact .inr ⟨h, hold, List.forall_mem_cons.2 ⟨fun hread => heq (hname hread), hno⟩⟩
    · rw [mark, if_neg hof]
      rcases ih hscs hs with h | ⟨h, hold, hno⟩
      · exact .inl h
      · by_cases hread : s₀.read L name = some sc
        · refine .inl (h.trans ?_)
          rw [hread, Option.map_some, BenchmarkScorecard.marked, if_neg hof]
        · exact .inr ⟨h, hold, List.forall_mem_cons.2 ⟨hread, hno⟩⟩

theorem mem_listScorecards (hs : s.Named L) {names : List String}
    (hnames : names.Perm s.files.keys) :
    sc ∈ s.listScorecards L names ↔ ∃ name, s.read L name = some sc := by
  rw [listScorecards, List.mem_filterMap]
  constructor
  · rintro ⟨name, -, hread⟩
    exact ⟨name, hread⟩
  · rintro ⟨name, hread⟩
    obtain ⟨id, -, rfl, -, -⟩ := hs name sc hread
    refine ⟨fileName id, List.mem_filter.2 ⟨hnames.mem_iff.2 ?_, isSuffixOf_fileName id⟩, hread⟩
    by_contra hno
    rw [← Dict.get?_eq_none_iff] at hno
    rw [read, hno] at hread
    cases hread

/-- The best card is one of those that are listed, and certified. -/
theorem of_bestScorecard {names : List String}
    (h : s.bestScorecard L names capabilityId = some sc) :
    sc ∈ s.listScorecards L names ∧ sc.certificationStatus = .certified := by
  have hfold : ∀ (rest : List BenchmarkScorecard) (best : BenchmarkScorecard),
      rest.foldl (better L) best ∈ best :: rest := by
    intro rest
    induction rest with
    | nil => exact fun best => List.mem_cons_self
    | cons x rest ih =>
      intro best
      have hbetter : better L best x = best ∨ better L best x = x := by
        unfold better
        split_ifs
        · exact .inr rfl
        · exact .inl rfl
      rcases List.mem_cons.1 (ih (better L best x)) with hhead | hrest
      · rw [List.foldl_cons, hhead]
        rcases hbetter with heq | heq <;> simp [heq]
      · exact List.mem_cons_of_mem _ (List.mem_cons_of_mem _ hrest)
  have hmem : sc ∈ (s.listScorecards L names).filter fun sc =>
      sc.capabilityId.beq (.str capabilityId) && sc.certificationStatus = .certified := by
    unfold bestScorecard at h
    dsimp only at h
    split at h
    case h_1 => cases h
    case h_2 first rest hcandidates =>
      rw [hcandidates, ← Option.some.inj h]
      exact hfold rest first
  rw [List.mem_filter, Bool.and_eq_true, decide_eq_true_eq] at hmem
  exact ⟨hmem.1, hmem.2.2⟩

/-- **Marking**: the cards that are meant are marked, and no other card changes. -/
theorem mark_spec (hL : L.Lawful) (hs : s.Named L) {names : List String}
    (hnames : names.Perm s.files.keys) (u : Unfinished) (name : String) :
    (mark L status capabilityId implementationId u (s.listScorecards L names) s).2.read L name =
      (s.read L name).map (.marked status capabilityId implementationId) := by
  rcases read_mark hL u hs (fun sc hsc => (mem_listScorecards hs hnames).1 hsc)
    (fun _ => .inl rfl) name with h | ⟨h, -, hno⟩
  · exact h
  · cases hread : s.read L name with
    | none => rw [h, hread, Option.map_none]
    | some sc => exact absurd hread (hno sc ((mem_listScorecards hs hnames).2 ⟨name, hread⟩))

end BenchmarkStore

/-! ### What is kept -/

namespace Kept

theorem named_store (h : Kept L cards s) : s.Named L := by
  intro name sc hread
  obtain ⟨id, rfl, hid⟩ := h.named name sc hread
  obtain ⟨hown, hplain, hopen⟩ := h.own id sc hid
  exact ⟨id, hown, rfl, hplain, hopen⟩

theorem values_nodup (h : Kept L cards s) : cards.values.Nodup := by
  rw [Dict.values_eq_filterMap]
  refine List.Nodup.filterMap (fun id id' sc hid hid' => ?_) cards.nodup
  exact PyVal.str.inj ((h.own id sc hid).1.symm.trans (h.own id' sc hid').1)

theorem list_nodup (h : Kept L cards s) {names : List String} (hnames : names.Perm s.files.keys) :
    (s.listScorecards L names).Nodup := by
  refine List.Nodup.filterMap (fun name name' sc hname hname' => ?_)
    ((hnames.nodup_iff.2 s.files.nodup).filter _)
  obtain ⟨id, hid, rfl, -, -⟩ := h.named_store name sc hname
  obtain ⟨id', hid', rfl, -, -⟩ := h.named_store name' sc hname'
  rw [PyVal.str.inj (hid.symm.trans hid')]

theorem mem_list (h : Kept L cards s) {names : List String} (hnames : names.Perm s.files.keys) :
    sc ∈ s.listScorecards L names ↔ ∃ id, cards.get? id = some sc := by
  rw [BenchmarkStore.mem_listScorecards h.named_store hnames]
  constructor
  · rintro ⟨name, hread⟩
    obtain ⟨id, -, hid⟩ := h.named name sc hread
    exact ⟨id, hid⟩
  · rintro ⟨id, hid⟩
    exact ⟨fileName id, h.written id sc hid⟩

theorem faithful (h : Kept L cards s) : Faithful L cards s where
  loaded := h.written
  listed names hnames := by
    refine (List.perm_ext_iff_of_nodup (h.list_nodup hnames) h.values_nodup).2 fun sc => ?_
    rw [h.mem_list hnames]
    constructor
    · rintro ⟨id, hid⟩
      exact Dict.mem_values_of_get? hid
    · exact Dict.exists_get?_of_mem_values
  best names capabilityId sc hnames hbest := by
    obtain ⟨hmem, hcertified⟩ := BenchmarkStore.of_bestScorecard hbest
    exact ⟨(h.mem_list hnames).1 hmem, by simp [hcertified], by simp [hcertified]⟩

theorem new (L : Library) (storeDir : String) : Kept L .empty ⟨storeDir, .empty⟩ where
  own id sc h := by cases h
  written id sc h := by cases h
  named name sc h := by cases h

/-- Saving a card that JSON knows, in a file that no other card has. -/
theorem save (hL : L.Lawful) (h : Kept L cards s) (hid : sc.scorecardId = .str id)
    (hopen : L.openable (fileName id) = true) (hplain : sc.Plain)
    (hapart : ∀ id', fileName id' = fileName id → cards.get? id' ≠ none → id' = id) {j : Json}
    (hj : sc.encoded L = some j) :
    Kept L (cards.set id sc) (s.write (fileName id) (Json.dumpsIndent 0 j)) := by
  have hread (name : String) :
      (s.write (fileName id) (Json.dumpsIndent 0 j)).read L name =
        if name = fileName id then some sc else s.read L name := by
    rw [BenchmarkStore.read_write, readScorecard_encode hL hj, BenchmarkScorecard.reread_eq hplain]
  refine ⟨Dict.forall_get?_set h.own ⟨hid, hplain, hopen⟩, fun id' sc' hget => ?_,
    fun name sc' hget => ?_⟩
  · rw [hread]
    rcases Dict.of_get?_set hget with ⟨rfl, rfl⟩ | ⟨hne, hget⟩
    · rw [if_pos rfl]
    · have hother : fileName id' ≠ fileName id := fun heq =>
        hne (hapart id' heq (by rw [hget]; exact Option.some_ne_none _))
      rw [if_neg hother]
      exact h.written id' sc' hget
  · rw [hread] at hget
    split_ifs at hget with heq
    · obtain rfl := Option.some.inj hget
      exact ⟨id, heq, Dict.get?_set_self _ _⟩
    · obtain ⟨id', rfl, hid'⟩ := h.named name sc' hget
      have hne : id' ≠ id := fun hsame => heq (by rw [hsame])
      exact ⟨id', rfl, (Dict.get?_set_ne hne _).trans hid'⟩

/-- A card that cannot be written, in a file that no card has. -/
theorem unfinished (h : Kept L cards s)
    (hfree : ∀ id', fileName id' = fileName id → cards.get? id' = none) (u : Unfinished) :
    Kept L cards (s.write (fileName id) u.text) := by
  have hread (name : String) : (s.write (fileName id) u.text).read L name =
      if name = fileName id then none else s.read L name := by
    rw [BenchmarkStore.read_write, readScorecard_unfinished]
  refine ⟨h.own, fun id' sc' hget => ?_, fun name sc' hget => ?_⟩
  · rw [hread, if_neg]
    · exact h.written id' sc' hget
    · intro heq
      rw [hfree id' heq] at hget
      cases hget
  · rw [hread] at hget
    split_ifs at hget
    exact h.named name sc' hget

theorem plain_marked (h : sc.Plain) :
    (sc.marked status capabilityId implementationId).Plain := by
  unfold BenchmarkScorecard.marked
  split_ifs
  · exact h
  · exact h

theorem scorecardId_marked :
    (sc.marked status capabilityId implementationId).scorecardId = sc.scorecardId := by
  unfold BenchmarkScorecard.marked
  split_ifs
  · rfl
  · rfl

/-- Marking. -/
theorem mark (hL : L.Lawful) (h : Kept L cards s) {names : List String}
    (hnames : names.Perm s.files.keys) (u : Unfinished) :
    Kept L (cards.map (.marked status capabilityId implementationId))
      (BenchmarkStore.mark L status capabilityId implementationId u (s.listScorecards L names)
        s).2 := by
  have hread : ∀ name, (BenchmarkStore.mark L status capabilityId implementationId u
      (s.listScorecards L names) s).2.read L name =
        (s.read L name).map (.marked status capabilityId implementationId) :=
    BenchmarkStore.mark_spec hL h.named_store hnames u
  refine ⟨fun id sc' hget => ?_, fun id sc' hget => ?_, fun name sc' hget => ?_⟩
  · rw [Dict.get?_map, Option.map_eq_some_iff] at hget
    obtain ⟨sc, hsc, rfl⟩ := hget
    obtain ⟨hid, hplain, hopen⟩ := h.own id sc hsc
    exact ⟨scorecardId_marked.trans hid, plain_marked hplain, hopen⟩
  · rw [Dict.get?_map, Option.map_eq_some_iff] at hget
    obtain ⟨sc, hsc, rfl⟩ := hget
    rw [hread, h.written id sc hsc, Option.map_some]
  · rw [hread, Option.map_eq_some_iff] at hget
    obtain ⟨sc, hsc, rfl⟩ := hget
    obtain ⟨id, hname, hid⟩ := h.named name sc hsc
    exact ⟨id, hname, by rw [Dict.get?_map, hid, Option.map_some]⟩

end Kept

/-- A call that returns saves the card. -/
theorem recorded_save_ok {u : Unfinished} {path : String} {s' : BenchmarkStore}
    (hid : sc.scorecardId = .str id) (h : s.saveScorecard L sc u = (.ok path, s')) :
    recorded L cards s (.save sc u) = cards.set id sc := by
  simp [recorded, hid, h]

/-- And one that raises does not. -/
theorem recorded_save_error {u : Unfinished} {e : Raised} {s' : BenchmarkStore}
    (h : s.saveScorecard L sc u = (.error e, s')) :
    recorded L cards s (.save sc u) = cards := by
  cases hid : sc.scorecardId <;> simp [recorded, hid, h]

/-- How saving goes. -/
theorem saveScorecard_cases (s : BenchmarkStore) (sc : BenchmarkScorecard) (u : Unfinished) :
    (∃ id, sc.scorecardId = .str id ∧ L.openable (fileName id) = true) ∨
      ∃ e, s.saveScorecard L sc u = (.error e, s) := by
  cases hid : sc.scorecardId with
  | str id =>
    by_cases hopen : L.openable (fileName id) = true
    · exact .inl ⟨id, rfl, hopen⟩
    · exact .inr ⟨.osError, by simp [BenchmarkStore.saveScorecard, hid, hopen]⟩
  | none | bool | int | float | list | dict | object | again =>
    exact .inr ⟨.attributeError, by simp [BenchmarkStore.saveScorecard, hid]⟩

/-- **One call** that keeps the cards apart. -/
theorem Kept.after (hL : L.Lawful) (h : Kept L cards s) {c : Call} (hlists : s.Lists c)
    (hapart : Apart L cards c) : Kept L (recorded L cards s c) (s.after L c) := by
  cases c with
  | save sc u =>
    change Kept L (recorded L cards s (.save sc u)) (s.saveScorecard L sc u).2
    rcases saveScorecard_cases s sc u with ⟨id, hid, hopen⟩ | ⟨e, hsave⟩
    · obtain ⟨hwritten, hfree⟩ := hapart id hid hopen
      cases hj : sc.encoded L with
      | some j =>
        have hsave := BenchmarkStore.saveScorecard_eq (s := s) hid hopen hj u
        rw [recorded_save_ok hid hsave, hsave]
        obtain ⟨hplain, hother⟩ := hwritten (by rw [hj]; exact Option.some_ne_none _)
        exact h.save hL hid hopen hplain hother hj
      | none =>
        have hsave := BenchmarkStore.saveScorecard_unfinished (s := s) hid hopen hj u
        rw [recorded_save_error hsave, hsave]
        exact h.unfinished (hfree hj) u
    · rw [recorded_save_error hsave, hsave]
      exact h
  | markStale names capabilityId implementationId u => exact h.mark hL hlists u
  | revoke names capabilityId implementationId u => exact h.mark hL hlists u

/-- **What a store needs** that is faithful after the call. -/
theorem apart_of_faithful (hL : L.Lawful)
    (hown : ∀ id sc, cards.get? id = some sc → sc.scorecardId = .str id) {c : Call}
    (hafter : Faithful L (recorded L cards s c) (s.after L c)) : Apart L cards c := by
  cases c with
  | markStale | revoke => exact trivial
  | save sc u =>
    intro id hid hopen
    refine ⟨fun hj => ?_, fun hj id' hname => ?_⟩
    · obtain ⟨j, hj⟩ := Option.ne_none_iff_exists'.1 hj
      have hsave := BenchmarkStore.saveScorecard_eq (s := s) hid hopen hj u
      rw [recorded_save_ok hid hsave] at hafter
      -- the file is read as what JSON has for the card
      have hread (id' : String) (hname : fileName id' = fileName id) :
          (s.after L (.save sc u)).loadScorecard L id' = some sc.reread := by
        change (s.saveScorecard L sc u).2.read L (fileName id') = _
        rw [hsave, hname]
        exact (BenchmarkStore.read_write _ _ _).trans
          ((if_pos rfl).trans (readScorecard_encode hL hj))
      have hsame : sc = sc.reread := by
        have hload := hafter.loaded id sc (Dict.get?_set_self _ _)
        exact Option.some.inj (hload.symm.trans (hread id rfl))
      refine ⟨hsame ▸ sc.plain_reread, fun id' hname hid' => ?_⟩
      by_contra hne
      obtain ⟨d, hd⟩ := Option.ne_none_iff_exists'.1 hid'
      have hload := hafter.loaded id' d ((Dict.get?_set_ne hne _).trans hd)
      rw [hread id' hname, ← hsame] at hload
      obtain rfl := Option.some.inj hload
      exact hne (PyVal.str.inj ((hown id' sc hd).symm.trans hid))
    · by_contra hid'
      obtain ⟨d, hd⟩ := Option.ne_none_iff_exists'.1 hid'
      have hsave := BenchmarkStore.saveScorecard_unfinished (s := s) hid hopen hj u
      rw [recorded_save_error hsave] at hafter
      have hload := hafter.loaded id' d hd
      change (s.saveScorecard L sc u).2.read L (fileName id') = _ at hload
      rw [hsave, hname] at hload
      have hread := (BenchmarkStore.read_write (L := L) (s := s) (fileName id) (fileName id)
        u.text).trans ((if_pos rfl).trans (readScorecard_unfinished L u))
      cases hread.symm.trans hload

/-! ### Runs -/

/-- The cards that were saved are under their ids. -/
theorem scorecardId_of_recorded
    (hown : ∀ id sc, cards.get? id = some sc → sc.scorecardId = .str id) (c : Call) :
    ∀ id sc, (recorded L cards s c).get? id = some sc → sc.scorecardId = .str id := by
  have hmark (status : CertificationStatus) (capabilityId implementationId : String) :
      ∀ id sc, (cards.map (BenchmarkScorecard.marked status capabilityId
        implementationId)).get? id = some sc → sc.scorecardId = .str id := by
    intro id sc' hget
    rw [Dict.get?_map, Option.map_eq_some_iff] at hget
    obtain ⟨sc, hsc, rfl⟩ := hget
    exact Kept.scorecardId_marked.trans (hown id sc hsc)
  cases c with
  | save sc u =>
    rcases saveScorecard_cases s sc u with ⟨id, hid, hopen⟩ | ⟨e, hsave⟩
    · cases hj : sc.encoded L with
      | some j =>
        rw [recorded_save_ok hid (BenchmarkStore.saveScorecard_eq hid hopen hj u)]
        exact Dict.forall_get?_set hown hid
      | none =>
        rw [recorded_save_error (BenchmarkStore.saveScorecard_unfinished hid hopen hj u)]
        exact hown
    · rw [recorded_save_error hsave]
      exact hown
  | markStale | revoke => exact hmark _ _ _

/-- **The store over a run**, in which the directory is listed as it is. -/
theorem scorecards_faithful_iff (hL : L.Lawful) (storeDir : String) (cs : List Call)
    (hlists : ∀ before c rest, cs = before ++ c :: rest → (run L storeDir before).2.Lists c) :
    (∀ before rest, cs = before ++ rest →
        Faithful L (run L storeDir before).1 (run L storeDir before).2) ↔
      ∀ before c rest, cs = before ++ c :: rest → Apart L (run L storeDir before).1 c := by
  constructor
  · intro h before c rest hcs
    have hown : ∀ id sc, (run L storeDir before).1.get? id = some sc → sc.scorecardId = .str id :=
      System.foldl_keeps
        (I := fun p : Cards × BenchmarkStore =>
          ∀ id sc, p.1.get? id = some sc → sc.scorecardId = .str id)
        (fun _ _ hget => by cases hget)
        (fun _ c _ _ hown => scorecardId_of_recorded hown c) hcs
    have hafter := h (before ++ [c]) rest (by rw [hcs]; simp)
    rw [run, List.foldl_append] at hafter
    exact apart_of_faithful hL hown hafter
  · intro h before rest hcs
    refine Kept.faithful (System.foldl_keeps
      (I := fun p : Cards × BenchmarkStore => Kept L p.1 p.2) (Kept.new L storeDir) ?_ hcs)
    intro before c rest hcs hkept
    exact hkept.after hL (hlists before c rest hcs) (h before c rest hcs)

/-! ### A store that is faithful, and one that is not -/

/-- A text without a `Z` is read as it is. -/
theorem zoned_of_notMem {t : List Char} (h : 'Z' ∉ t) :
    zoned (String.ofList t) = String.ofList t := by
  have hreplace (r : List Char) : Text.replaceFrom ['Z'] r 0 t = t := by
    induction t with
    | nil => rfl
    | cons c t ih =>
      rw [List.mem_cons, not_or] at h
      have hprefix : ['Z'].isPrefixOf (c :: t) = false := by
        simp [List.isPrefixOf, h.1]
      rw [Text.replaceFrom, hprefix, if_neg (by simp), ih h.2]
  rw [zoned, Text.replaceAll, if_neg (by simp), String.toList_ofList, String.toList_ofList,
    hreplace]

/-- A library that writes a time as its numbers. -/
def someLibrary : Library where
  arith := .overflowing
  float
    | .float x => some x
    | _ => none
  str t := String.ofList (intText t.wall ++ (t.offset.map fun o => ' ' :: intText o).getD [])
  fromisoformat s :=
    match s.toList.dropWhile (· ≠ ' ') with
    | [] => some ⟨intOfText s.toList, none⟩
    | _ :: rest => some ⟨intOfText (s.toList.takeWhile (· ≠ ' ')), some (intOfText rest)⟩
  openable _ := true

theorem lawful_someLibrary : someLibrary.Lawful where
  float_float x := rfl
  fromisoformat_str t := by
    obtain ⟨wall, offset⟩ := t
    have hletter {n : ℤ} {c : Char} (hc : c ∈ intText n) : c ≠ ' ' ∧ c ≠ 'Z' := by
      rcases mem_intText hc with rfl | hdigit
      · decide
      · refine ⟨?_, ?_⟩ <;> rintro rfl <;> exact absurd hdigit (by decide)
    have hword (n : ℤ) : ∀ c ∈ intText n, decide (c ≠ ' ') = true := fun c hc =>
      decide_eq_true (hletter hc).1
    have hnotMem : 'Z' ∉ intText wall ++ (offset.map fun o => ' ' :: intText o).getD [] := by
      intro hmem
      rcases List.mem_append.1 hmem with hmem | hmem
      · exact (hletter hmem).2 rfl
      · cases offset with
        | none => simp at hmem
        | some o =>
          rcases List.mem_cons.1 hmem with hspace | hmem
          · exact absurd hspace (by decide)
          · exact (hletter hmem).2 rfl
    simp only [someLibrary]
    rw [zoned_of_notMem hnotMem, String.toList_ofList]
    cases offset with
    | none =>
      have hdrop : (intText wall).dropWhile (· ≠ ' ') = [] :=
        List.dropWhile_eq_nil_iff.2 (hword wall)
      simp only [Option.map_none, Option.getD_none, List.append_nil, hdrop, intOfText_intText]
    | some o =>
      have hdrop : (intText wall ++ ' ' :: intText o).dropWhile (· ≠ ' ') = ' ' :: intText o := by
        rw [List.dropWhile_append_of_pos (hword wall)]
        rfl
      have htake : (intText wall ++ ' ' :: intText o).takeWhile (· ≠ ' ') = intText wall := by
        rw [List.takeWhile_append_of_pos (hword wall)]
        exact List.append_nil _
      simp only [Option.map_some, Option.getD_some, hdrop, htake, intOfText_intText]
  str_ne t h := by
    obtain ⟨c, r, hhead, -⟩ := Json.intText_head t.wall
    have hnil := congrArg String.toList h
    simp [someLibrary, hhead] at hnil

/-- A certified card. -/
def certifiedCard (scorecardId : String) : BenchmarkScorecard where
  scorecardId := .str scorecardId
  capabilityId := .str "text.summarize"
  implementationId := .str "local"
  implementationRevision := .str "r1"
  benchmarkVersion := .str "v1.0.0"
  datasetVersion := .str "v1.0.0"
  score := .lit ⟨"0.9".toList, by decide⟩
  confidence := .lit ⟨"0.8".toList, by decide⟩
  latencyP50 := zeroFloat
  latencyP95 := zeroFloat
  latencyP99 := zeroFloat
  resourceUsage := .dict [(.str "ram_gb", .float zeroFloat)]
  certificationStatus := .certified

theorem plain_certifiedCard (scorecardId : String) : (certifiedCard scorecardId).Plain := by
  simp only [BenchmarkScorecard.Plain, BenchmarkScorecard.values, certifiedCard,
    List.forall_mem_cons]
  exact ⟨⟨.str _, rfl⟩, ⟨.str _, rfl⟩, ⟨.str _, rfl⟩, ⟨.str _, rfl⟩, ⟨.str _, rfl⟩,
    ⟨.str _, rfl⟩, ⟨.obj [("ram_gb", .float zeroFloat)], rfl⟩, ⟨.null, rfl⟩, ⟨.null, rfl⟩, by simp⟩

/-- Nothing. -/
def nothingWritten : Unfinished := ⟨[], by decide⟩

/-- A card is saved, and revoked. -/
def revokedOnce : List Call :=
  [.save (certifiedCard "text.summarize_local") nothingWritten,
    .revoke [fileName "text.summarize_local"] "text.summarize" "local" nothingWritten]

/-- A run over one card is faithful. -/
theorem faithful_revokedOnce :
    Faithful someLibrary (run someLibrary "/scorecards" revokedOnce).1
      (run someLibrary "/scorecards" revokedOnce).2 := by
  refine (scorecards_faithful_iff lawful_someLibrary "/scorecards" revokedOnce ?_).2 ?_
    revokedOnce [] (List.append_nil _).symm
  · simp only [revokedOnce, forall_split_cons]
    exact ⟨trivial, List.Perm.refl _, forall_split_nil⟩
  · simp only [revokedOnce, forall_split_cons]
    refine ⟨fun id hid hopen => ⟨fun _ => ⟨plain_certifiedCard _, fun id' _ hid' => ?_⟩, ?_⟩,
      trivial, forall_split_nil⟩
    · exact absurd rfl hid'
    · exact fun _ id' _ => rfl

/-- Two cards are saved. -/
def twoSaved : List Call :=
  [.save (certifiedCard "text.summarize_local") nothingWritten,
    .save (certifiedCard "text_summarize_local") nothingWritten]

/-- **A card is lost** when one is saved whose id differs in a dot. -/
theorem not_faithful :
    (∀ before c rest, twoSaved = before ++ c :: rest →
        (run someLibrary "/scorecards" before).2.Lists c) ∧
      fileName "text.summarize_local" = fileName "text_summarize_local" ∧
      (run someLibrary "/scorecards" twoSaved).1.get? "text.summarize_local" =
        some (certifiedCard "text.summarize_local") ∧
      (run someLibrary "/scorecards" twoSaved).2.loadScorecard someLibrary
        "text.summarize_local" = some (certifiedCard "text_summarize_local") ∧
      ¬ ∀ before rest, twoSaved = before ++ rest →
        Faithful someLibrary (run someLibrary "/scorecards" before).1
          (run someLibrary "/scorecards" before).2 := by
  have hname : fileName "text.summarize_local" = fileName "text_summarize_local" := by decide
  obtain ⟨j', hj'⟩ := encoded_of_plain someLibrary (plain_certifiedCard "text_summarize_local")
  have hsaved : (run someLibrary "/scorecards" twoSaved).1.get? "text.summarize_local" =
      some (certifiedCard "text.summarize_local") := rfl
  have hload : (run someLibrary "/scorecards" twoSaved).2.loadScorecard someLibrary
      "text.summarize_local" = some (certifiedCard "text_summarize_local") := by
    have hsecond (s : BenchmarkStore) := BenchmarkStore.saveScorecard_eq
      (s := s) (L := someLibrary) rfl rfl hj' nothingWritten
    change (BenchmarkStore.saveScorecard someLibrary _ _ nothingWritten).2.read someLibrary _ = _
    rw [hsecond, hname]
    exact (BenchmarkStore.read_write _ _ _).trans ((if_pos rfl).trans
      ((readScorecard_encode lawful_someLibrary hj').trans
        (congrArg some (BenchmarkScorecard.reread_eq (plain_certifiedCard _)))))
  refine ⟨?_, hname, hsaved, hload, fun h => ?_⟩
  · simp only [twoSaved, forall_split_cons]
    exact ⟨trivial, trivial, forall_split_nil⟩
  · have hkept := (h twoSaved [] (List.append_nil _).symm).loaded _ _ hsaved
    have hsame := congrArg (Option.map BenchmarkScorecard.scorecardId) (hload.symm.trans hkept)
    have hids := PyVal.str.inj (Option.some.inj hsame)
    exact absurd hids (by decide)

end Benchmarks

end AnnyRuntime
