import AnnyRuntime.Sync.Service

/-!
# The candidate verifier

`CandidateVerifier.verify` compares the SHA-256 digest of a candidate with the digest that it
expects.  The payload that was discovered may be any value, the bytes are given or downloaded from
the first asset, and every exception becomes a result.

* `verify_eq_error` : **no exception leaves `verify`.**
* `isVerified_iff` : **a candidate is verified exactly when it should be (`Verifiable`) and what is
  read of the payload on the way can be read (`Readable`).**  An asset that is no dictionary is an
  `ERROR`, even if the bytes are given.
-/

namespace AnnyRuntime

namespace Sync

/-! ### What the verifier makes -/

/-- What was found out about a candidate. -/
inductive VerificationState where
  | verified
  | invalid
  | missingProof
  | unsupported
  | error
  deriving DecidableEq

/-- The text of a state. -/
def VerificationState.value : VerificationState → String
  | verified => "VERIFIED"
  | invalid => "INVALID"
  | missingProof => "MISSING_PROOF"
  | unsupported => "UNSUPPORTED"
  | error => "ERROR"

/-- What identifies a candidate.  Its fields hold what the payload holds. -/
structure CandidateIdentity where
  (source candidateVersion traceId : PyVal)
  releaseId : PyVal := .none
  artifactName : PyVal := .none
  artifactSize : PyVal := .none
  contentDigest : PyVal := .none

/-- `to_dict`. -/
def CandidateIdentity.toDict (c : CandidateIdentity) : PyVal :=
  .ofMembers [("source", c.source), ("candidate_version", c.candidateVersion),
    ("trace_id", c.traceId), ("release_id", c.releaseId), ("artifact_name", c.artifactName),
    ("artifact_size", c.artifactSize), ("content_digest", c.contentDigest)]

/-- What `verify` returns. -/
structure VerificationResult where
  status : VerificationState
  candidateIdentity : Option CandidateIdentity := none
  digestAlgorithm : Option String := none
  digest : Option String := none
  proofReference : Option String := none
  verifierIdentity : String := "CandidateVerifier/1.0"
  error : Option String := none

/-- A text, or `None`. -/
def optional : Option String → PyVal
  | some s => .str s
  | none => .none

/-- What `to_dict` has in it. -/
def VerificationResult.members (r : VerificationResult) : List (PyKey × PyVal) :=
  [(.str "verified", .bool (r.status = .verified)), (.str "status", .str r.status.value),
    (.str "candidate_identity", (r.candidateIdentity.map CandidateIdentity.toDict).getD .none),
    (.str "digest_algorithm", optional r.digestAlgorithm), (.str "digest", optional r.digest),
    (.str "proof_reference", optional r.proofReference),
    (.str "verifier_identity", .str r.verifierIdentity), (.str "error", optional r.error)]

/-- `to_dict`, when no value in it refuses to be copied. -/
def VerificationResult.toDict (r : VerificationResult) : PyVal := .dict r.members

theorem VerificationResult.getD_verified (r : VerificationResult) :
    getD r.members "verified" (.bool false) = .bool (r.status = .verified) := rfl

theorem VerificationResult.getD_digest (r : VerificationResult) :
    getD r.members "digest" .none = optional r.digest := rfl

/-! ### The verifier -/

/-- A verifier, with the functions that it calls. -/
structure CandidateVerifier where
  expectedDigest : Option String
  /-- The hexadecimal SHA-256 digest. -/
  sha256 : List UInt8 → String
  /-- `_fetch_bytes`: the bytes at a URL. -/
  fetchBytes : PyVal → Except Raised (List UInt8)
  /-- What `str` raises for an object that has no text. -/
  unprintable : Raised := .abort

/-- The name of the class of an exception. -/
def Raised.className : Raised → String
  | exception cls _ => cls
  | unprintable cls _ => cls
  | abort => ""

/-- A value of a payload; a container inside itself is the payload. -/
def unfolded (d : List (PyKey × PyVal)) : PyVal → PyVal
  | .again => .dict d
  | v => v

/-- The key equals `0`. -/
def isZero : PyKey → Bool
  | .bool b => !b
  | .int n => n = 0
  | .float x => !(Json.float x).truthy
  | _ => false

/-- `v[0]`. -/
def subscript : PyVal → Except Raised PyVal
  | .list (v :: _) => .ok v
  | .list [] => .error (.exception "IndexError" "list index out of range")
  | .dict ms =>
    match ms.find? fun m => isZero m.1 with
    | some m => .ok m.2
    | none => .error (.exception "KeyError" "0")
  | .str s =>
    match s.toList with
    | c :: _ => .ok (.str (String.ofList [c]))
    | [] => .error (.exception "IndexError" "string index out of range")
  | v => .error (.exception "TypeError" ("'" ++ v.typeName ++ "' object is not subscriptable"))

/-- `assets[0] if assets else None`. -/
def firstAsset (d : List (PyKey × PyVal)) : Except Raised PyVal :=
  let assets := unfolded d (getD d "assets" (.list []))
  if assets.truthy then (subscript assets).map (unfolded d) else .ok .none

/-- What an asset says of the artifact, and where it can be downloaded. -/
def describe (identity : CandidateIdentity) (asset : PyVal) :
    Except Raised (CandidateIdentity × PyVal) :=
  if asset.truthy then
    match asset with
    | .dict a =>
      .ok ({ identity with
        artifactName := getD a "name" .none, artifactSize := getD a "size" .none },
        getD a "browser_download_url" .none)
    | other => .error (noGet other)
  else .ok (identity, .none)

namespace CandidateVerifier

variable (v : CandidateVerifier)

/-- `str(x)`. -/
def str (x : PyVal) : Except Raised String :=
  match x.pyStr with
  | some s => .ok s
  | none => .error v.unprintable

/-- `str(discovered.get("release_id")) if discovered.get("release_id") else None`. -/
def releaseId (d : List (PyKey × PyVal)) : Except Raised PyVal :=
  if (getD d "release_id" .none).truthy then (v.str (getD d "release_id" .none)).map .str
  else .ok .none

/-- The digest that is expected, unless none is configured. -/
def expected : Option String := v.expectedDigest.filter (· ≠ "")

/-- The bytes: those that were given, or what is downloaded; the text of the error otherwise. -/
def obtain (url : PyVal) (candidateBytes : Option (List UInt8)) :
    Except Raised (Except String (List UInt8)) :=
  match candidateBytes with
  | some (b :: bs) => .ok (.ok (b :: bs))
  | _ =>
    if url.truthy then
      match v.fetchBytes url with
      | .ok bytes => .ok (.ok bytes)
      | .error (.exception _ text) => .ok (.error ("ARTIFACT_DOWNLOAD_FAILED: " ++ text))
      -- the text of the error is formed in the handler
      | .error (.unprintable _ e) => .error e
      | .error .abort => .error .abort
    else .ok (.ok [])

/-- The bytes are compared with the digest that is expected. -/
def conclude (expected : String) (identity : CandidateIdentity) :
    Except String (List UInt8) → VerificationResult
  | .error error => { status := .error, candidateIdentity := some identity, error := some error }
  | .ok [] =>
    { status := .error, candidateIdentity := some identity
      error := some "NO_CANDIDATE_BYTES_AVAILABLE" }
  | .ok (b :: bs) =>
    let digest := v.sha256 (b :: bs)
    let identity := { identity with contentDigest := .str digest }
    if digest ≠ expected then
      { status := .invalid, candidateIdentity := some identity, digestAlgorithm := some "sha256"
        digest := some digest, error := some "CHECKSUM_MISMATCH" }
    else
      { status := .verified, candidateIdentity := some identity, digestAlgorithm := some "sha256"
        digest := some digest, proofReference := some ("expected_digest:" ++ expected) }

/-- The artifact of a candidate is obtained and compared. -/
def inspect (d : List (PyKey × PyVal)) (expected : String) (identity : CandidateIdentity)
    (candidateBytes : Option (List UInt8)) : Except Raised VerificationResult := do
  let asset ← firstAsset d
  let (identity, url) ← describe identity asset
  let bytes ← v.obtain url candidateBytes
  return v.conclude expected identity bytes

/-- The `try` of `verify`. -/
def examine (discovered traceId : PyVal) (candidateBytes : Option (List UInt8)) :
    Except Raised VerificationResult :=
  match discovered with
  | .dict d => do
    let releaseId ← v.releaseId d
    let candidateVersion := getD d "candidate_version" .none
    if !candidateVersion.truthy then
      return { status := .invalid, error := some "MISSING_CANDIDATE_VERSION" }
    let identity : CandidateIdentity :=
      { source := getD d "source" (.str "UNKNOWN")
        candidateVersion := candidateVersion
        traceId := traceId
        releaseId := releaseId }
    match v.expected with
    | none =>
      return { status := .missingProof, candidateIdentity := some identity
               error := some "NO_PROVENANCE_AVAILABLE" }
    | some expected => v.inspect d expected identity candidateBytes
  | other => .error (noGet other)

/-- `verify`. -/
def verify (discovered traceId : PyVal) (candidateBytes : Option (List UInt8)) :
    Except Raised VerificationResult :=
  match v.examine discovered traceId candidateBytes with
  | .ok r => .ok r
  | .error .abort => .error .abort
  | .error e =>
    .ok { status := .error, error := some ("VERIFIER_EXCEPTION: " ++ e.className) }

/-! ### What should be verified -/

/-- The bytes of the candidate: those that were given, or else those that the first asset is
downloaded as. -/
def Supplied (d : List (PyKey × PyVal)) (candidateBytes : Option (List UInt8))
    (bytes : List UInt8) : Prop :=
  candidateBytes = some bytes ∨ candidateBytes.getD [] = [] ∧
    ∃ a, firstAsset d = .ok (.dict a) ∧
      (getD a "browser_download_url" .none).truthy = true ∧
      v.fetchBytes (getD a "browser_download_url" .none) = .ok bytes

/-- A version is present, and the bytes, of which there are some, have the digest that is
configured. -/
def Verifiable (discovered : PyVal) (candidateBytes : Option (List UInt8)) : Prop :=
  ∃ d, discovered = .dict d ∧ (getD d "candidate_version" .none).truthy = true ∧
    ∃ expected bytes, v.expectedDigest = some expected ∧ expected ≠ "" ∧
      v.Supplied d candidateBytes bytes ∧ bytes ≠ [] ∧ v.sha256 bytes = expected

/-- The release has a text, and the first asset, if there is one, is a dictionary. -/
structure Readable (d : List (PyKey × PyVal)) : Prop where
  releaseId : ∃ r, v.releaseId d = .ok r
  asset : ∃ asset, firstAsset d = .ok asset ∧ (asset.truthy = true → ∃ a, asset = .dict a)

/-- The result says that the candidate is verified. -/
def IsVerified (r : Except Raised VerificationResult) : Prop :=
  ∃ r', r = .ok r' ∧ r'.status = .verified

/-- What is raised passes the handlers, or its text does. -/
def Aborts (e : Raised) : Prop := e = .abort ∨ ∃ cls, e = .unprintable cls .abort

/-- A text, or a download, raises what is no `Exception`. -/
def Interrupted : Prop := v.unprintable = .abort ∨ ∃ url e, v.fetchBytes url = .error e ∧ Aborts e

variable {v} {d : List (PyKey × PyVal)} {discovered traceId : PyVal}
  {candidateBytes : Option (List UInt8)} {identity : CandidateIdentity}

/-! ### What is raised -/

theorem subscript_ne_abort (x : PyVal) : subscript x ≠ .error .abort := by
  unfold subscript
  split
  · simp
  · simp
  · split <;> simp
  · split <;> simp
  · simp

theorem firstAsset_ne_abort : firstAsset d ≠ .error .abort := by
  unfold firstAsset
  dsimp only
  split_ifs
  · cases h : subscript (unfolded d (getD d "assets" (.list []))) with
    | ok a => simp [Except.map]
    | error e =>
      have hne : e ≠ .abort := fun he => subscript_ne_abort _ (he ▸ h)
      simpa [Except.map] using hne
  · simp

theorem describe_ne_abort (asset : PyVal) : describe identity asset ≠ .error .abort := by
  unfold describe
  split_ifs
  · split
    · simp
    · simp [noGet]
  · simp

theorem obtain_eq_abort {url : PyVal} (h : v.obtain url candidateBytes = .error .abort) :
    v.Interrupted := by
  unfold obtain at h
  split at h
  · cases h
  · split_ifs at h
    split at h
    · cases h
    · cases h
    · rename_i cls e hfetch
      obtain rfl : e = .abort := Except.error.inj h
      exact Or.inr ⟨url, _, hfetch, Or.inr ⟨cls, rfl⟩⟩
    · rename_i hfetch
      exact Or.inr ⟨url, _, hfetch, Or.inl rfl⟩

theorem releaseId_eq_abort (h : v.releaseId d = .error .abort) : v.Interrupted := by
  unfold releaseId at h
  split_ifs at h
  · unfold str at h
    split at h
    · cases h
    · exact Or.inl (Except.error.inj h)

/-- A chain of calls aborts in one of them. -/
theorem bind_eq_abort {α β : Type} {x : Except Raised α} {f : α → Except Raised β}
    (h : (x >>= f) = .error .abort) : x = .error .abort ∨ ∃ a, x = .ok a ∧ f a = .error .abort := by
  cases x with
  | error e =>
    obtain rfl : e = .abort := Except.error.inj h
    exact Or.inl rfl
  | ok a => exact Or.inr ⟨a, rfl, h⟩

theorem inspect_eq_abort {expected : String}
    (h : v.inspect d expected identity candidateBytes = .error .abort) : v.Interrupted := by
  rcases bind_eq_abort h with h | ⟨asset, -, h⟩
  · exact absurd h firstAsset_ne_abort
  · rcases bind_eq_abort h with h | ⟨⟨identity, url⟩, -, h⟩
    · exact absurd h (describe_ne_abort asset)
    · rcases bind_eq_abort h with h | ⟨bytes, -, h⟩
      · exact obtain_eq_abort h
      · cases h

theorem examine_eq_abort (h : v.examine discovered traceId candidateBytes = .error .abort) :
    v.Interrupted := by
  cases discovered with
  | dict d =>
    rcases bind_eq_abort h with h | ⟨releaseId, -, h⟩
    · exact releaseId_eq_abort h
    · dsimp only at h
      split_ifs at h
      · cases h
      · split at h
        · cases h
        · exact inspect_eq_abort h
  | _ => cases h

/-- **No exception leaves `verify`**: what is raised is none, and comes from a text or a download.
-/
theorem verify_eq_error {e : Raised} (h : v.verify discovered traceId candidateBytes = .error e) :
    e = .abort ∧ v.Interrupted := by
  unfold verify at h
  split at h
  · cases h
  · rename_i habort
    exact ⟨(Except.error.inj h).symm, examine_eq_abort habort⟩
  · cases h

/-! ### What is verified -/

/-- A handler does not make a candidate verified. -/
theorem isVerified_verify : IsVerified (v.verify discovered traceId candidateBytes) ↔
    IsVerified (v.examine discovered traceId candidateBytes) := by
  unfold verify
  split
  · rename_i h
    rw [h]
  · rename_i h
    rw [h]
  · rename_i e _ h
    rw [h]
    constructor
    · rintro ⟨r, hr, hstatus⟩
      obtain rfl := Except.ok.inj hr
      cases hstatus
    · rintro ⟨r, hr, -⟩
      cases hr

theorem isVerified_bind {α : Type} {x : Except Raised α}
    {f : α → Except Raised VerificationResult} :
    IsVerified (x >>= f) ↔ ∃ a, x = .ok a ∧ IsVerified (f a) := by
  cases x with
  | error e =>
    constructor
    · rintro ⟨r, hr, -⟩
      cases hr
    · rintro ⟨a, ha, -⟩
      cases ha
  | ok a =>
    constructor
    · exact fun h => ⟨a, rfl, h⟩
    · rintro ⟨b, hb, h⟩
      obtain rfl := Except.ok.inj hb
      exact h

theorem isVerified_pure {r : VerificationResult} :
    IsVerified (pure r) ↔ r.status = .verified := by
  constructor
  · rintro ⟨r', hr, h⟩
    obtain rfl := Except.ok.inj hr
    exact h
  · exact fun h => ⟨r, rfl, h⟩

theorem status_conclude {expected : String} {bytes : Except String (List UInt8)} :
    (v.conclude expected identity bytes).status = .verified ↔
      ∃ b, bytes = .ok b ∧ b ≠ [] ∧ v.sha256 b = expected := by
  match bytes with
  | .error e => simp [conclude]
  | .ok [] => simp [conclude]
  | .ok (b :: bs) =>
    by_cases h : v.sha256 (b :: bs) = expected <;> simp [conclude, h]

theorem obtain_eq_ok {url : PyVal} {bytes : List UInt8} (hbytes : bytes ≠ []) :
    v.obtain url candidateBytes = .ok (.ok bytes) ↔ candidateBytes = some bytes ∨
      candidateBytes.getD [] = [] ∧ url.truthy = true ∧ v.fetchBytes url = .ok bytes := by
  match candidateBytes with
  | some (b :: bs) => simp [obtain]
  | some [] | none =>
    cases hurl : url.truthy with
    | false => simp [obtain, hurl, hbytes.symm]
    | true =>
      cases hfetch : v.fetchBytes url with
      | ok b => simp [obtain, hurl, hfetch, hbytes.symm]
      | error e => cases e <;> simp [obtain, hurl, hfetch, hbytes.symm]

/-- An asset is described, unless it is there and is no dictionary. -/
theorem describe_eq_ok {asset : PyVal} :
    (∃ r, describe identity asset = .ok r) ↔ (asset.truthy = true → ∃ a, asset = .dict a) := by
  cases htruthy : asset.truthy with
  | false => simp [describe, htruthy]
  | true => cases asset <;> simp [describe, htruthy, noGet]

/-- Where the first asset can be downloaded. -/
theorem url_of_describe {asset url : PyVal} {i : CandidateIdentity}
    (h : describe identity asset = .ok (i, url)) :
    (url.truthy = true ↔ ∃ a, asset = .dict a ∧
      (getD a "browser_download_url" .none).truthy = true) ∧
      ∀ a, asset = .dict a → url.truthy = true → url = getD a "browser_download_url" .none := by
  unfold describe at h
  split_ifs at h with htruthy
  · cases asset with
    | dict a =>
      obtain ⟨-, rfl⟩ := Prod.mk.inj (Except.ok.inj h)
      refine ⟨⟨fun hurl => ⟨a, rfl, hurl⟩, ?_⟩, ?_⟩
      · rintro ⟨a', ha, hurl⟩
        obtain rfl := PyVal.dict.inj ha
        exact hurl
      · rintro a' ha -
        obtain rfl := PyVal.dict.inj ha
        rfl
    | _ => cases h
  · obtain ⟨-, rfl⟩ := Prod.mk.inj (Except.ok.inj h)
    refine ⟨⟨fun hurl => absurd hurl (by simp [PyVal.truthy]), ?_⟩,
      fun a ha hurl => absurd hurl (by simp [PyVal.truthy])⟩
    rintro ⟨a, rfl, hurl⟩
    -- a dictionary that is false has no members
    obtain rfl : a = [] := by simpa [PyVal.truthy] using htruthy
    exact absurd hurl (by simp [getD, PyVal.get?, PyVal.truthy])

theorem isVerified_inspect {expected : String} :
    IsVerified (v.inspect d expected identity candidateBytes) ↔
      (∃ asset, firstAsset d = .ok asset ∧ (asset.truthy = true → ∃ a, asset = .dict a)) ∧
        ∃ bytes, v.Supplied d candidateBytes bytes ∧ bytes ≠ [] ∧ v.sha256 bytes = expected := by
  simp only [inspect, isVerified_bind, isVerified_pure, status_conclude]
  constructor
  · rintro ⟨asset, hasset, ⟨i, url⟩, hdescribe, _, hobtain, bytes, rfl, hne, hdigest⟩
    refine ⟨⟨asset, hasset, describe_eq_ok.1 ⟨_, hdescribe⟩⟩, bytes, ?_, hne, hdigest⟩
    refine ((obtain_eq_ok hne).1 hobtain).imp_right fun ⟨hnone, hurl, hfetch⟩ => ⟨hnone, ?_⟩
    obtain ⟨htruthy, heq⟩ := url_of_describe hdescribe
    obtain ⟨a, rfl, ha⟩ := htruthy.1 hurl
    exact ⟨a, hasset, ha, heq a rfl hurl ▸ hfetch⟩
  · rintro ⟨⟨asset, hasset, hdict⟩, bytes, hsupplied, hne, hdigest⟩
    have hdescribes : ∃ r, describe identity asset = .ok r := describe_eq_ok.2 hdict
    obtain ⟨⟨i, url⟩, hdescribe⟩ := hdescribes
    refine ⟨asset, hasset, (i, url), hdescribe, _, (obtain_eq_ok hne).2 ?_, bytes, rfl, hne,
      hdigest⟩
    refine hsupplied.imp_right fun ⟨hnone, a, ha, hurl, hfetch⟩ => ?_
    obtain rfl := Except.ok.inj (hasset.symm.trans ha)
    obtain ⟨htruthy, heq⟩ := url_of_describe hdescribe
    have hurl' := htruthy.2 ⟨a, rfl, hurl⟩
    exact ⟨hnone, hurl', heq a rfl hurl' ▸ hfetch⟩

theorem expected_eq_some {expected : String} :
    v.expected = some expected ↔ v.expectedDigest = some expected ∧ expected ≠ "" := by
  simp [CandidateVerifier.expected, Option.filter_eq_some_iff]

/-- **When a candidate is verified**: exactly when it should be, and what is read of the payload can
be read. -/
theorem isVerified_iff : IsVerified (v.verify discovered traceId candidateBytes) ↔
    v.Verifiable discovered candidateBytes ∧ ∀ d, discovered = .dict d → v.Readable d := by
  rw [isVerified_verify]
  match discovered with
  | .dict d =>
    simp only [examine, isVerified_bind]
    constructor
    · rintro ⟨releaseId, hrelease, h⟩
      split_ifs at h with hversion
      · exact absurd (isVerified_pure.1 h) (by simp)
      · split at h
        · exact absurd (isVerified_pure.1 h) (by simp)
        · rename_i expected hexpected
          obtain ⟨hasset, bytes, hsupplied, hne, hdigest⟩ := isVerified_inspect.1 h
          obtain ⟨hconfigured, hnonempty⟩ := expected_eq_some.1 hexpected
          refine ⟨⟨d, rfl, by simpa using hversion, expected, bytes, hconfigured, hnonempty,
            hsupplied, hne, hdigest⟩, ?_⟩
          rintro _ ⟨⟩
          exact ⟨⟨releaseId, hrelease⟩, hasset⟩
    · rintro ⟨⟨_, ⟨⟩, hversion, expected, bytes, hconfigured, hnonempty, hsupplied, hne, hdigest⟩,
        hreadable⟩
      obtain ⟨⟨releaseId, hrelease⟩, hasset⟩ := hreadable d rfl
      refine ⟨releaseId, hrelease, ?_⟩
      rw [if_neg (by simpa using hversion), expected_eq_some.2 ⟨hconfigured, hnonempty⟩]
      exact isVerified_inspect.2 ⟨hasset, bytes, hsupplied, hne, hdigest⟩
  | .none | .bool _ | .int _ | .float _ | .str _ | .list _ | .object _ | .again =>
    constructor
    · rintro ⟨r, hr, -⟩
      cases hr
    · rintro ⟨⟨d, hd, -⟩, -⟩
      cases hd

end CandidateVerifier

end Sync

end AnnyRuntime
