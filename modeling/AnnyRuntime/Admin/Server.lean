import AnnyRuntime.Admin.Access

/-!
# The server of the admin panel

The router has one context for all requests.  A request that proceeds writes its session and its
cookies into it, its handler reads them there, and at the end the request removes what it added.

* `served_apart` : as long as requests are served one after the other, none sees what another one
  left, not even what a handler put in the place of the snapshot, and the cookies of an answer are
  its own; but the answer to a `POST` that proceeds has no cookies at all.
* `session_of_owner` : **in every interleaving of requests**, the session that handlers see is that
  of the request that published its context last, until a request ends that found none.
-/

namespace AnnyRuntime

namespace Admin

/-- A value in the context of the router.  An object of another kind stands for itself, whatever
becomes of what it holds. -/
inductive ContextValue (ν : Type) where
  | session (s : Option AdminSession)
  /-- The values of `Set-Cookie`. -/
  | cookies (cs : List (String × ℤ × Bool))
  | text (s : String)
  | flag (b : Bool)
  | other (v : ν)

/-- The context of the router. -/
abbrev Shared (ν : Type) := Dict String (ContextValue ν)

/-- The keys that the handlers of the router write or delete. -/
def handlerKeys : List String :=
  ["direct_json_response", "direct_html_response", "bootstrap_snapshot", "destroy_session",
    "new_session_id"]

/-- A handler of the router: what it does to the context. -/
structure Handler (ν : Type) where
  run : Shared ν → Shared ν
  frame : ∀ d key, key ∉ handlerKeys → (run d).get? key = d.get? key

section Server

variable {ν : Type}

/-! ### The middleware -/

/-- What `process_request` writes into the copy of the context. -/
def Context.entries (ctx : Context) : List (String × ContextValue ν) :=
  [("secure_cookie", .flag ctx.secureCookie), ("admin_session", .session ctx.adminSession),
    ("set_cookies", .cookies [])] ++
  (ctx.newSessionId.map fun x => ("new_session_id", ContextValue.text x)).toList ++
  (ctx.redirectTo.map fun x => ("redirect_to", ContextValue.text x)).toList

/-- The copy of the context after `process_request`. -/
def withRequest (d : Shared ν) (ctx : Context) : Shared ν :=
  ctx.entries.foldl (fun d e => d.set e.1 e.2) d

/-- The cookies in a context. -/
def cookiesOf (d : Shared ν) : List (String × ℤ × Bool) :=
  match d.get? "set_cookies" with
  | some (.cookies cs) => cs
  | _ => []

/-- `context.get('secure_cookie', True)`. -/
def secureOf (d : Shared ν) : Bool :=
  match d.get? "secure_cookie" with
  | some (.flag b) => b
  | _ => true

/-- The cookies that `process_response` leaves, for sessions that last `ttl` seconds: the value, the
age and whether it is secure. -/
def responseCookies (ttl : ℤ) (d : Shared ν) : List (String × ℤ × Bool) :=
  cookiesOf d ++
    (match d.get? "new_session_id" with
      | some (.text x) => if x = "" then [] else [(x, ttl, secureOf d)]
      | _ => []) ++
    match d.get? "destroy_session" with
      | some (.flag true) => [("", 0, secureOf d)]
      | _ => []

/-- `process_response`. -/
def processResponse (ttl : ℤ) (d : Shared ν) : Shared ν :=
  d.set "set_cookies" (.cookies (responseCookies ttl d))

/-! ### Requests -/

/-- The keys that `do_GET` does not write back. -/
def keptByGet : List String := ["admin_session", "set_cookies", "new_session_id", "secure_cookie"]

/-- The keys that `do_POST` does not write back. -/
def keptByPost : List String := keptByGet ++ ["destroy_session"]

/-- A key that a request deletes at its end: it was not there when the request began. -/
def isAdded (saved : Shared ν) (key : String) : Bool :=
  !saved.contains key && decide (key ∉ ["bootstrap_snapshot", "sync_service"])

/-- What was there when the request began is written back. -/
def writeBack (kept : List String) (saved current : Shared ν) : Shared ν :=
  (saved.entries.filter fun e => e.1 ∉ kept).foldl (fun d e => d.set e.1 e.2) current

/-- The `finally` of a request. -/
def restore (kept : List String) (saved current : Shared ν) : Shared ν :=
  writeBack kept saved
    ((current.keys.filter (isAdded saved)).foldl (fun d key => d.erase key) current)

/-- A request begins: its context is written into that of the router, with its cookies for a
`GET`. -/
def begin (ttl : ℤ) (isGet : Bool) (ctx : Context) (d : Shared ν) : Shared ν :=
  let own := withRequest d ctx
  let shared := d.update own
  if isGet then shared.set "set_cookies" (.cookies (responseCookies ttl own)) else shared

/-- A request ends. -/
def finish (ttl : ℤ) (isGet : Bool) (saved current : Shared ν) : Shared ν :=
  if isGet then restore keptByGet saved current
  else restore keptByPost saved (processResponse ttl current)

/-- A request that does not proceed. -/
def redirect (ttl : ℤ) (ctx : Context) (d : Shared ν) : Shared ν :=
  d.set "set_cookies" (.cookies (responseCookies ttl (withRequest d ctx)))

/-- What a request comes to. -/
structure Served (ν : Type) where
  isGet : Bool
  ctx : Context
  /-- The middleware lets it through, for a `POST` with its token. -/
  proceeds : Bool
  handler : Handler ν

/-- A request is served: the cookies of its answer, and the context of the router after it.  The
answer is sent by the handler. -/
def serve (ttl : ℤ) (r : Served ν) (d : Shared ν) : List (String × ℤ × Bool) × Shared ν :=
  if r.proceeds then
    let handled := r.handler.run (begin ttl r.isGet r.ctx d)
    (cookiesOf handled, finish ttl r.isGet d handled)
  else (cookiesOf (redirect ttl r.ctx d), redirect ttl r.ctx d)

/-! ### One request after the other -/

/-- The keys of a request. -/
def requestKeys : List String :=
  ["admin_session", "new_session_id", "secure_cookie", "destroy_session", "redirect_to",
    "direct_json_response", "direct_html_response"]

/-- The router's context between requests: nothing of a request is left but cookies. -/
def Clean (d : Shared ν) : Prop := ∀ key ∈ requestKeys, d.get? key = none

/-- The cookies of a request. -/
def ownCookies (ttl : ℤ) (ctx : Context) : List (String × ℤ × Bool) :=
  match ctx.newSessionId with
  | some x => if x = "" then [] else [(x, ttl, ctx.secureCookie)]
  | none => []

variable {ttl : ℤ} {d saved current : Shared ν} {ctx : Context} {key : String}

theorem nodup_entries (ctx : Context) : ((ctx.entries (ν := ν)).map Prod.fst).Nodup := by
  unfold Context.entries
  cases ctx.newSessionId <;> cases ctx.redirectTo <;> simp

theorem lookup_cons_ite (a : String) (v : ContextValue ν) (es : List (String × ContextValue ν)) :
    ((a, v) :: es).lookup key = if key = a then some v else es.lookup key := by
  by_cases h : key = a
  · rw [if_pos h, List.lookup_cons, beq_iff_eq.2 h]
  · rw [if_neg h, List.lookup_cons, beq_eq_false_iff_ne.2 h]

/-- What a request writes under a key. -/
theorem lookup_entries (ctx : Context) (key : String) :
    (ctx.entries (ν := ν)).lookup key =
      if key = "secure_cookie" then some (.flag ctx.secureCookie)
      else if key = "admin_session" then some (.session ctx.adminSession)
      else if key = "set_cookies" then some (.cookies [])
      else if key = "new_session_id" then ctx.newSessionId.map .text
      else if key = "redirect_to" then ctx.redirectTo.map .text
      else none := by
  obtain ⟨secure, session, new, location⟩ := ctx
  by_cases hnew : key = "new_session_id"
  · subst hnew
    cases new <;> cases location <;> simp [Context.entries, lookup_cons_ite]
  · cases new <;> cases location <;> simp [Context.entries, lookup_cons_ite, hnew]

theorem get?_withRequest (d : Shared ν) (ctx : Context) (key : String) :
    (withRequest d ctx).get? key = ((ctx.entries.lookup key).or (d.get? key)) :=
  Dict.get?_foldl_set (nodup_entries ctx) d key

theorem get?_begin (hne : key ≠ "set_cookies") (isGet : Bool) :
    (begin ttl isGet ctx d).get? key = (ctx.entries.lookup key).or (d.get? key) := by
  have hupdate : (d.update (withRequest d ctx)).get? key =
      (ctx.entries.lookup key).or (d.get? key) := by
    rw [Dict.get?_update, get?_withRequest, Option.or_assoc, Option.or_self]
  cases isGet with
  | false => exact hupdate
  | true =>
    show ((d.update (withRequest d ctx)).set _ _).get? key = _
    rw [Dict.get?_set_ne hne, hupdate]

theorem get?_foldl_erase (ks : List String) (d : Shared ν) (key : String) :
    (ks.foldl (fun d k => d.erase k) d).get? key = if key ∈ ks then none else d.get? key := by
  induction ks generalizing d with
  | nil => simp
  | cons k ks ih =>
    rw [List.foldl_cons, ih, Dict.get?_erase]
    by_cases hk : key = k
    · simp [hk]
    · simp [hk]

theorem lookup_filter_key (es : List (String × ContextValue ν)) (kept : List String) :
    (es.filter fun e => e.1 ∉ kept).lookup key = if key ∈ kept then none else es.lookup key := by
  induction es with
  | nil => simp
  | cons e es ih =>
    obtain ⟨a, v⟩ := e
    by_cases hk : key = a
    · subst hk
      by_cases ha : key ∈ kept
      · rw [List.filter_cons_of_neg (by simpa using ha), ih, if_pos ha, if_pos ha]
      · rw [List.filter_cons_of_pos (by simpa using ha), if_neg ha]
        simp
    · by_cases ha : a ∈ kept
      · rw [List.filter_cons_of_neg (by simpa using ha), ih, lookup_cons_ite, if_neg hk]
      · rw [List.filter_cons_of_pos (by simpa using ha), lookup_cons_ite, lookup_cons_ite,
          if_neg hk, if_neg hk, ih]

theorem get?_writeBack (kept : List String) :
    (writeBack kept saved current).get? key =
      if key ∈ kept then current.get? key else (saved.get? key).or (current.get? key) := by
  have hnodup : ((saved.entries.filter fun e => e.1 ∉ kept).map Prod.fst).Nodup :=
    saved.nodup.sublist (List.filter_sublist.map _)
  rw [writeBack, Dict.get?_foldl_set hnodup, lookup_filter_key]
  by_cases hk : key ∈ kept
  · rw [if_pos hk, if_pos hk, Option.none_or]
  · rw [if_neg hk, if_neg hk]
    rfl

/-- What is left of a key at the end of a request. -/
theorem get?_restore (kept : List String) :
    (restore kept saved current).get? key =
      if key ∉ kept ∧ (saved.get? key).isSome = true then saved.get? key
      else if isAdded saved key = true then none
      else current.get? key := by
  rw [restore, get?_writeBack, get?_foldl_erase]
  have herased : (if key ∈ current.keys.filter (isAdded saved) then none else current.get? key) =
      if isAdded saved key = true then none else current.get? key := by
    by_cases ha : isAdded saved key = true
    · rw [if_pos ha]
      by_cases hc : key ∈ current.keys
      · rw [if_pos (List.mem_filter.2 ⟨hc, ha⟩)]
      · rw [Dict.get?_eq_none_iff.2 hc, ite_self]
    · rw [if_neg ha, if_neg fun h => ha (List.mem_filter.1 h).2]
  rw [herased]
  by_cases hk : key ∈ kept
  · have hkept : ¬(key ∉ kept ∧ (saved.get? key).isSome = true) := fun h => h.1 hk
    rw [if_pos hk, if_neg hkept]
  · rw [if_neg hk]
    cases hs : saved.get? key with
    | none => simp
    | some v => simp [hk]

theorem isAdded_of_none (h : saved.get? key = none)
    (hkey : key ∉ ["bootstrap_snapshot", "sync_service"]) : isAdded saved key = true := by
  rw [isAdded, Dict.contains, h, decide_eq_true hkey]
  rfl

/-- At the end of a request nothing of it is left, and what was there before is there again. -/
theorem get?_finish (hclean : Clean d) {isGet : Bool} (hne : key ≠ "set_cookies")
    (hcurrent : key = "sync_service" → current.get? key = d.get? key)
    (hboot : key = "bootstrap_snapshot" → d.get? key ≠ none) :
    (finish ttl isGet d current).get? key = d.get? key := by
  have hrestore : ∀ kept : List String, (∀ k ∈ kept, k = "set_cookies" ∨ k ∈ requestKeys) →
      ∀ now : Shared ν, now.get? key = current.get? key →
        (restore kept d now).get? key = d.get? key := by
    intro kept hkept now hnow
    rw [get?_restore]
    cases hd : d.get? key with
    | some v =>
      have hk : key ∉ kept := by
        intro hmem
        rcases hkept key hmem with rfl | hkey
        · exact hne rfl
        · rw [hclean key hkey] at hd
          cases hd
      rw [if_pos ⟨hk, rfl⟩]
    | none =>
      rw [if_neg fun h => Bool.noConfusion h.2]
      by_cases hs : key = "sync_service"
      · rw [hnow, hcurrent hs, hd, ite_self]
      · have hkey : key ∉ ["bootstrap_snapshot", "sync_service"] := by
          intro hmem
          rcases List.mem_cons.1 hmem with hb | hmem
          · exact hboot hb hd
          · exact hs (List.mem_singleton.1 hmem)
        rw [if_pos (isAdded_of_none hd hkey)]
  have hnow : (processResponse ttl current).get? key = current.get? key := Dict.get?_set_ne hne _
  unfold finish
  cases isGet with
  | true => exact hrestore keptByGet (by simp [keptByGet, requestKeys]) current rfl
  | false => exact hrestore keptByPost (by simp [keptByPost, keptByGet, requestKeys]) _ hnow

/-- **A request that nobody interrupts**: the session its handler sees and the cookies of its answer
are its own, and every other key is as it was. -/
theorem serve_apart (hclean : Clean d) (hboot : d.get? "bootstrap_snapshot" ≠ none) (r : Served ν) :
    (begin ttl r.isGet r.ctx d).get? "admin_session" = some (.session r.ctx.adminSession) ∧
    (serve ttl r d).1 = (if r.proceeds = true ∧ r.isGet = false then [] else ownCookies ttl r.ctx) ∧
    ∀ key, key ≠ "set_cookies" → (serve ttl r d).2.get? key = d.get? key := by
  have hown : responseCookies ttl (withRequest d r.ctx) = ownCookies ttl r.ctx := by
    have hdestroy : d.get? "destroy_session" = none := hclean _ (by simp [requestKeys])
    have hnew : d.get? "new_session_id" = none := hclean _ (by simp [requestKeys])
    unfold responseCookies cookiesOf secureOf ownCookies
    simp only [get?_withRequest, lookup_entries, hdestroy, hnew]
    cases r.ctx.newSessionId <;> simp
  refine ⟨?_, ?_, ?_⟩
  · rw [get?_begin (by simp)]
    simp [lookup_entries]
  · unfold serve
    cases hp : r.proceeds with
    | false =>
      rw [if_neg Bool.false_ne_true, if_neg fun h => Bool.false_ne_true h.1, ← hown]
      show cookiesOf (Dict.set _ _ _) = _
      rw [cookiesOf, Dict.get?_set_self]
    | true =>
      rw [if_pos rfl]
      show cookiesOf _ = _
      rw [cookiesOf, r.handler.frame _ _ (by simp [handlerKeys])]
      cases hg : r.isGet with
      | true =>
        rw [if_neg fun h => Bool.noConfusion h.2, ← hown]
        rw [begin, if_pos rfl, Dict.get?_set_self]
      | false =>
        rw [if_pos ⟨rfl, rfl⟩]
        rw [begin, if_neg Bool.false_ne_true, Dict.get?_update, get?_withRequest]
        simp [lookup_entries]
  · intro key hne
    unfold serve
    cases hp : r.proceeds with
    | false =>
      rw [if_neg Bool.false_ne_true]
      exact Dict.get?_set_ne hne _
    | true =>
      rw [if_pos rfl]
      refine get?_finish hclean hne ?_ ?_
      · rintro rfl
        rw [r.handler.frame _ _ (by simp [handlerKeys]), get?_begin hne]
        simp [lookup_entries]
      · rintro rfl
        exact hboot

/-- The context of the router after requests that are served one after the other. -/
def afterAll (ttl : ℤ) (rs : List (Served ν)) (d : Shared ν) : Shared ν :=
  rs.foldl (fun d r => (serve ttl r d).2) d

/-- Requests one after the other: only cookies are left between them. -/
theorem get?_afterAll (hclean : Clean d) (hboot : d.get? "bootstrap_snapshot" ≠ none)
    (rs : List (Served ν)) (hne : key ≠ "set_cookies") :
    (afterAll ttl rs d).get? key = d.get? key := by
  induction rs generalizing d with
  | nil => rfl
  | cons r rs ih =>
    have hserve : ∀ key, key ≠ "set_cookies" → (serve ttl r d).2.get? key = d.get? key :=
      (serve_apart hclean hboot r).2.2
    have hclean' : Clean (serve ttl r d).2 := by
      intro k hk
      rw [hserve k (by rintro rfl; simp [requestKeys] at hk)]
      exact hclean k hk
    have hboot' : (serve ttl r d).2.get? "bootstrap_snapshot" ≠ none := by
      rw [hserve _ (by simp)]
      exact hboot
    show (afterAll ttl rs (serve ttl r d).2).get? key = _
    rw [ih hclean' hboot', hserve key hne]

/-- **Requests that are served one after the other do not see each other**: at each of them, the
router's context is the one at the start but for the cookies, its handler sees its own session, and
the cookies of its answer are its own.  An answer to a `POST` that proceeds has none. -/
theorem served_apart (hclean : Clean d) (hboot : d.get? "bootstrap_snapshot" ≠ none)
    (before : List (Served ν)) (r : Served ν) :
    (∀ key, key ≠ "set_cookies" → (afterAll ttl before d).get? key = d.get? key) ∧
    (begin ttl r.isGet r.ctx (afterAll ttl before d)).get? "admin_session" =
      some (.session r.ctx.adminSession) ∧
    (serve ttl r (afterAll ttl before d)).1 =
      if r.proceeds = true ∧ r.isGet = false then [] else ownCookies ttl r.ctx := by
  have hafter : ∀ key, key ≠ "set_cookies" → (afterAll ttl before d).get? key = d.get? key :=
    fun key hne => get?_afterAll hclean hboot before hne
  have hclean' : Clean (afterAll ttl before d) := by
    intro key hkey
    rw [hafter key (by rintro rfl; simp [requestKeys] at hkey)]
    exact hclean key hkey
  have hboot' : (afterAll ttl before d).get? "bootstrap_snapshot" ≠ none := by
    rw [hafter _ (by simp)]
    exact hboot
  exact ⟨hafter, (serve_apart hclean' hboot' r).1, (serve_apart hclean' hboot' r).2.1⟩

/-- The sessions of two visitors. -/
def visitor (i : ℕ) : AdminSession :=
  { adminSessionId := if i = 0 then "first" else "second"
    issuedAt := .now 0
    expiresAt := .now 60
    runtimeId := "runtime"
    scope := .admin
    principal := "local-admin"
    csrfToken := if i = 0 then "a" else "b" }

theorem idle_frame (d : Shared Unit) (key : String) (_ : key ∉ handlerKeys) :
    (id d).get? key = d.get? key := rfl

/-- A `GET` of a visitor, whose handler leaves the context as it is. -/
def visit (i : ℕ) : Served Unit :=
  { isGet := true
    ctx := ⟨false, some (visitor i), none, none⟩
    proceeds := true
    handler := ⟨id, idle_frame⟩ }

/-- Two visits, one after the other, to a panel that has a snapshot. -/
theorem served_apart_visits :
    ∃ d : Shared Unit, Clean d ∧ d.get? "bootstrap_snapshot" ≠ none ∧
      (begin 60 true (visit 1).ctx (afterAll 60 [visit 0] d)).get? "admin_session" =
        some (.session (some (visitor 1))) := by
  let d : Shared Unit := Dict.empty.set "bootstrap_snapshot" (.other ())
  have hclean : Clean d := by
    intro key hkey
    have hne : key ≠ "bootstrap_snapshot" := by
      rintro rfl
      exact absurd hkey (by decide)
    exact Dict.get?_set_ne hne _
  have hboot : d.get? "bootstrap_snapshot" ≠ none := by
    rw [Dict.get?_set_self]
    exact Option.some_ne_none _
  exact ⟨d, hclean, hboot, (served_apart hclean hboot [visit 0] (visit 1)).2.1⟩

/-! ### Requests at once -/

/-- How far a request has come, with its copies of the router's context. -/
inductive Phase (ν : Type) where
  | waiting
  /-- The middleware lets it through. -/
  | admitted (own : Shared ν)
  | saved (own saved : Shared ν)
  /-- Its context is in that of the router. -/
  | running (saved : Shared ν)
  /-- The keys that are still to be looked at. -/
  | ending (keys : List String) (saved : Shared ν)
  | over

/-- What a request does at its turn. -/
inductive Turn (ν : Type) where
  | enter
  /-- It does not proceed. -/
  | refuse (cs : List (String × ℤ × Bool))
  | save
  | publish
  /-- Cookies are written.  Their list may be shared with other requests. -/
  | cookies (cs : List (String × ℤ × Bool))
  | handle (h : Handler ν)
  | close
  /-- The next key is deleted, when it was added. -/
  | delete (key : String)
  | writeBack

/-- One turn of a request. -/
def advance (r : Served ν) (d : Shared ν) : Phase ν → Turn ν → Option (Shared ν × Phase ν)
  | .waiting, .enter => some (d, .admitted (withRequest d r.ctx))
  | .waiting, .refuse cs => some (d.set "set_cookies" (.cookies cs), .over)
  | .admitted own, .save => some (d, .saved own d)
  | .saved own saved, .publish => some (d.update own, .running saved)
  | .running saved, .cookies cs => some (d.set "set_cookies" (.cookies cs), .running saved)
  | .running saved, .handle h => some (h.run d, .running saved)
  | .running saved, .close => some (d, .ending d.keys saved)
  | .ending (key :: keys) saved, .delete k =>
    if k ≠ key then none
    else if isAdded saved key then
      -- deleting a key that another request has deleted raises
      if d.contains key then some (d.erase key, .ending keys saved) else some (d, .over)
    else some (d, .ending keys saved)
  | .ending [] saved, .writeBack =>
    some (writeBack (if r.isGet then keptByGet else keptByPost) saved d, .over)
  | _, _ => none

/-- The context of the router, and the requests in flight. -/
structure Panel (ν : Type) where
  shared : Shared ν
  phase : ℕ → Phase ν

/-- A request takes its turn. -/
def Panel.next (reqs : ℕ → Served ν) (p : Panel ν) (a : ℕ × Turn ν) : Option (Panel ν) :=
  (advance (reqs a.1) p.shared (p.phase a.1) a.2).map fun q =>
    ⟨q.1, Function.update p.phase a.1 q.2⟩

/-- The panel before any request. -/
def Panel.start (d : Shared ν) : Panel ν := ⟨d, fun _ => .waiting⟩

/-- Whose session is in the context of the router, and which requests found one there when they
saved it. -/
structure Ownership where
  owner : Option ℕ
  found : ℕ → Bool

/-- A session gets into the context when it is published, and out of it when a request that found
none ends. -/
def Ownership.next (o : Ownership) (a : ℕ × Turn ν) : Ownership :=
  match a.2 with
  | .save => { o with found := Function.update o.found a.1 o.owner.isSome }
  | .publish => { o with owner := some a.1 }
  | .delete key =>
    if key = "admin_session" ∧ o.found a.1 = false then { o with owner := none } else o
  | _ => o

/-- No session, and none found. -/
def Ownership.start : Ownership := ⟨none, fun _ => false⟩

/-- The session in the context, by whose it is. -/
def sessionOf (reqs : ℕ → Served ν) (owner : Option ℕ) : Option (ContextValue ν) :=
  owner.map fun i => .session (reqs i).ctx.adminSession

/-- What a request's copies of the context say about sessions. -/
def Phase.Agrees (r : Served ν) (found : Bool) : Phase ν → Prop
  | .waiting => True
  | .admitted own => own.get? "admin_session" = some (.session r.ctx.adminSession)
  | .saved own saved =>
    own.get? "admin_session" = some (.session r.ctx.adminSession) ∧
      (saved.get? "admin_session").isSome = found
  | .running saved => (saved.get? "admin_session").isSome = found
  | .ending _ saved => (saved.get? "admin_session").isSome = found
  | .over => True

/-- The panel does what the owners say. -/
structure Panel.Follows (reqs : ℕ → Served ν) (p : Panel ν) (o : Ownership) : Prop where
  session : p.shared.get? "admin_session" = sessionOf reqs o.owner
  agrees : ∀ i, (p.phase i).Agrees (reqs i) (o.found i)

variable {reqs : ℕ → Served ν}

theorem found_next_of_ne {o : Ownership} {i j : ℕ} {t : Turn ν} (hji : j ≠ i) :
    (o.next (i, t)).found j = o.found j := by
  cases t with
  | save => exact Function.update_of_ne hji _ _
  | delete key =>
    show (if key = "admin_session" ∧ o.found i = false then { o with owner := none } else o).found j
      = o.found j
    split <;> rfl
  | _ => rfl

/-- A turn at a key deletes it, or leaves it as it is. -/
theorem advance_delete {r : Served ν} {key : String} {keys : List String} {q : Shared ν × Phase ν}
    (h : advance r d (.ending (key :: keys) saved) (.delete key) = some q) :
    q.1.get? "admin_session" =
        (if key = "admin_session" ∧ isAdded saved key = true then none
          else d.get? "admin_session") ∧
      (q.2 = .ending keys saved ∨ q.2 = .over) := by
  rw [advance, if_neg (not_not_intro rfl)] at h
  by_cases ha : isAdded saved key = true
  · rw [if_pos ha] at h
    by_cases hc : d.contains key = true
    · rw [if_pos hc] at h
      cases h
      refine ⟨?_, .inl rfl⟩
      show (d.erase key).get? "admin_session" = _
      rw [Dict.get?_erase]
      by_cases hkey : key = "admin_session"
      · rw [if_pos hkey.symm, if_pos ⟨hkey, ha⟩]
      · rw [if_neg (Ne.symm hkey), if_neg fun hh => hkey hh.1]
    · rw [if_neg hc] at h
      cases h
      refine ⟨?_, .inr rfl⟩
      by_cases hkey : key = "admin_session"
      · subst hkey
        rw [if_pos ⟨rfl, ha⟩]
        exact Option.not_isSome_iff_eq_none.1 hc
      · rw [if_neg fun hh => hkey hh.1]
  · rw [if_neg ha] at h
    cases h
    exact ⟨by rw [if_neg fun hh => ha hh.2], .inl rfl⟩

/-- The session is deleted by a request that found none. -/
theorem follows_delete {o : Ownership} {i : ℕ} {key : String} {keys : List String}
    {q : Shared ν × Phase ν} (hsession : d.get? "admin_session" = sessionOf reqs o.owner)
    (hfound : (saved.get? "admin_session").isSome = o.found i)
    (hd : q.1.get? "admin_session" =
      if key = "admin_session" ∧ isAdded saved key = true then none else d.get? "admin_session")
    (hph : q.2 = .ending keys saved ∨ q.2 = .over) :
    q.1.get? "admin_session" =
        sessionOf reqs (o.next (i, (.delete key : Turn ν))).owner ∧
      q.2.Agrees (reqs i) ((o.next (i, (.delete key : Turn ν))).found i) := by
  have hadded : key = "admin_session" → (isAdded saved key = true ↔ o.found i = false) := by
    rintro rfl
    rw [← hfound, isAdded, Dict.contains]
    simp
  have hnext : (o.next (i, (.delete key : Turn ν))) =
      if key = "admin_session" ∧ o.found i = false then { o with owner := none } else o := rfl
  have hfoundNext : (o.next (i, (.delete key : Turn ν))).found i = o.found i := by
    rw [hnext]
    split <;> rfl
  constructor
  · rw [hd, hnext]
    by_cases hkey : key = "admin_session"
    · by_cases hf : o.found i = false
      · rw [if_pos ⟨hkey, (hadded hkey).2 hf⟩, if_pos ⟨hkey, hf⟩]
        rfl
      · rw [if_neg fun hh => hf ((hadded hkey).1 hh.2), if_neg fun hh => hf hh.2]
        exact hsession
    · rw [if_neg fun hh => hkey hh.1, if_neg fun hh => hkey hh.1]
      exact hsession
  · rw [hfoundNext]
    rcases hph with hph | hph
    · rw [hph]
      exact hfound
    · rw [hph]
      exact trivial

/-- **One turn** keeps the session in the context that of its owner. -/
theorem advance_follows {o : Ownership} {i : ℕ} {t : Turn ν} {ph : Phase ν}
    {q : Shared ν × Phase ν} (hsession : d.get? "admin_session" = sessionOf reqs o.owner)
    (hagrees : ph.Agrees (reqs i) (o.found i)) (h : advance (reqs i) d ph t = some q) :
    q.1.get? "admin_session" = sessionOf reqs (o.next (i, t)).owner ∧
      q.2.Agrees (reqs i) ((o.next (i, t)).found i) := by
  have hturn := h
  unfold advance at h
  split at h
  case h_1 =>
    cases h
    refine ⟨hsession, ?_⟩
    show (withRequest d (reqs i).ctx).get? "admin_session" = _
    rw [get?_withRequest, lookup_entries]
    rfl
  case h_2 cs =>
    cases h
    exact ⟨(Dict.get?_set_ne (by simp) _).trans hsession, trivial⟩
  case h_3 own =>
    cases h
    refine ⟨hsession, hagrees, ?_⟩
    show _ = Function.update o.found i o.owner.isSome i
    rw [hsession, Function.update_self, sessionOf, Option.isSome_map]
  case h_4 own saved =>
    cases h
    refine ⟨?_, hagrees.2⟩
    show (d.update own).get? "admin_session" = _
    rw [Dict.get?_update, hagrees.1]
    rfl
  case h_5 saved cs =>
    cases h
    exact ⟨(Dict.get?_set_ne (by simp) _).trans hsession, hagrees⟩
  case h_6 saved handler =>
    cases h
    exact ⟨(handler.frame _ _ (by simp [handlerKeys])).trans hsession, hagrees⟩
  case h_7 saved =>
    cases h
    exact ⟨hsession, hagrees⟩
  case h_8 key keys saved k =>
    by_cases hk : k = key
    · subst hk
      obtain ⟨hd, hph⟩ := advance_delete hturn
      exact follows_delete hsession hagrees hd hph
    · rw [if_pos hk] at h
      cases h
  case h_9 saved =>
    cases h
    refine ⟨?_, trivial⟩
    show (writeBack _ saved d).get? "admin_session" = _
    rw [get?_writeBack, if_pos (by split <;> simp [keptByGet, keptByPost])]
    exact hsession
  case h_10 => cases h

/-! ### A request whose turns nobody interrupts -/

section Alone

variable {phase : ℕ → Phase ν} {i : ℕ}

/-- The turn of a request, by how far it has come. -/
theorem next_of_phase {ph : Phase ν} (t : Turn ν) :
    Panel.next reqs ⟨d, Function.update phase i ph⟩ (i, t) =
      (advance (reqs i) d ph t).map fun q => ⟨q.1, Function.update phase i q.2⟩ := by
  simp only [Panel.next, Function.update_self, Function.update_idem]

theorem run_of_advance {ph : Phase ν} {t : Turn ν} {q : Shared ν × Phase ν}
    (h : advance (reqs i) d ph t = some q) (ts : List (Turn ν)) :
    System.runFn (Panel.next reqs) ⟨d, Function.update phase i ph⟩ ((t :: ts).map (i, ·)) =
      System.runFn (Panel.next reqs) ⟨q.1, Function.update phase i q.2⟩ (ts.map (i, ·)) := by
  show (Panel.next reqs _ (i, t)).bind _ = _
  rw [next_of_phase, h]
  rfl

/-- The keys that were added are deleted, one after the other. -/
theorem run_deletes {keys : List String} (hnodup : keys.Nodup) (hkeys : ∀ k ∈ keys, k ∈ d.keys)
    (ts : List (Turn ν)) :
    System.runFn (Panel.next reqs) ⟨d, Function.update phase i (.ending keys saved)⟩
        ((keys.map Turn.delete ++ ts).map (i, ·)) =
      System.runFn (Panel.next reqs)
        ⟨(keys.filter (isAdded saved)).foldl (fun d key => d.erase key) d,
          Function.update phase i (.ending [] saved)⟩ (ts.map (i, ·)) := by
  induction keys generalizing d with
  | nil => rfl
  | cons key keys ih =>
    rw [List.nodup_cons] at hnodup
    have hcontains : d.contains key = true := by
      cases hd : d.get? key with
      | none => exact absurd (hkeys key List.mem_cons_self) (Dict.get?_eq_none_iff.1 hd)
      | some v => rw [Dict.contains, hd]; rfl
    by_cases ha : isAdded saved key = true
    · have hturn : advance (reqs i) d (.ending (key :: keys) saved) (.delete key) =
          some (d.erase key, .ending keys saved) := by
        rw [advance, if_neg (not_not_intro rfl), if_pos ha, if_pos hcontains]
      show System.runFn _ _ ((Turn.delete key :: (keys.map Turn.delete ++ ts)).map (i, ·)) = _
      rw [run_of_advance hturn, List.filter_cons_of_pos ha, List.foldl_cons]
      refine ih hnodup.2 fun k hk => ?_
      rw [Dict.keys_erase, List.mem_filter]
      refine ⟨hkeys k (List.mem_cons_of_mem _ hk), decide_eq_true ?_⟩
      rintro rfl
      exact hnodup.1 hk
    · have hturn : advance (reqs i) d (.ending (key :: keys) saved) (.delete key) =
          some (d, .ending keys saved) := by
        rw [advance, if_neg (not_not_intro rfl), if_neg ha]
      show System.runFn _ _ ((Turn.delete key :: (keys.map Turn.delete ++ ts)).map (i, ·)) = _
      rw [run_of_advance hturn, List.filter_cons_of_neg ha]
      exact ih hnodup.2 fun k hk => hkeys k (List.mem_cons_of_mem _ hk)

/-- The turns of a request at its end. -/
def endTurns (d : Shared ν) : List (Turn ν) := .close :: (d.keys.map .delete ++ [.writeBack])

theorem run_endTurns :
    System.runFn (Panel.next reqs) ⟨d, Function.update phase i (.running saved)⟩
        ((endTurns d).map (i, ·)) =
      some ⟨restore (if (reqs i).isGet then keptByGet else keptByPost) saved d,
        Function.update phase i .over⟩ := by
  have hdeletes : System.runFn (Panel.next reqs) ⟨d, Function.update phase i (.ending d.keys saved)⟩
      ((d.keys.map Turn.delete ++ [Turn.writeBack]).map (i, ·)) = _ :=
    run_deletes d.nodup (fun _ hk => hk) _
  exact (run_of_advance rfl _).trans (hdeletes.trans (run_of_advance rfl []))

/-- **Serving a request** is a run of its turns. -/
theorem serve_run (hproceeds : (reqs i).proceeds = true) :
    ∃ ts : List (Turn ν), System.runFn (Panel.next reqs) (Panel.start d) (ts.map (i, ·)) =
      some ⟨(serve ttl (reqs i) d).2, Function.update (fun _ => .waiting) i .over⟩ := by
  have hstart : Panel.start d = ⟨d, Function.update (fun _ => .waiting) i .waiting⟩ := by
    rw [Panel.start, Function.update_eq_self]
  let shared := d.update (withRequest d (reqs i).ctx)
  rw [hstart, serve, if_pos hproceeds]
  cases hg : (reqs i).isGet with
  | true =>
    let cs := responseCookies ttl (withRequest d (reqs i).ctx)
    let handled := (reqs i).handler.run (shared.set "set_cookies" (.cookies cs))
    refine ⟨.enter :: .save :: .publish :: .cookies cs :: .handle (reqs i).handler ::
      endTurns handled, ?_⟩
    rw [run_of_advance rfl, run_of_advance rfl, run_of_advance rfl, run_of_advance rfl,
      run_of_advance rfl, run_endTurns, hg]
    rfl
  | false =>
    let handled := (reqs i).handler.run shared
    refine ⟨.enter :: .save :: .publish :: .handle (reqs i).handler ::
      .cookies (responseCookies ttl handled) :: endTurns (processResponse ttl handled), ?_⟩
    rw [run_of_advance rfl, run_of_advance rfl, run_of_advance rfl, run_of_advance rfl,
      run_of_advance rfl]
    refine (run_endTurns (d := processResponse ttl handled)).trans ?_
    rw [hg]
    rfl

end Alone

/-- A turn of one request leaves the others what they are. -/
theorem follows_next {p p' : Panel ν} {o : Ownership} {a : ℕ × Turn ν} (hp : p.Follows reqs o)
    (h : p.next reqs a = some p') : p'.Follows reqs (o.next a) := by
  obtain ⟨i, t⟩ := a
  rw [Panel.next, Option.map_eq_some_iff] at h
  obtain ⟨q, hq, rfl⟩ := h
  obtain ⟨hsession, hagrees⟩ := advance_follows hp.session (hp.agrees i) hq
  refine ⟨hsession, fun j => ?_⟩
  show (Function.update p.phase i q.2 j).Agrees (reqs j) _
  by_cases hji : j = i
  · rw [hji, Function.update_self]
    exact hagrees
  · rw [Function.update_of_ne hji, found_next_of_ne hji]
    exact hp.agrees j

theorem follows_run {p p' : Panel ν} {o : Ownership} {acts : List (ℕ × Turn ν)}
    (hp : p.Follows reqs o) (h : System.runFn (Panel.next reqs) p acts = some p') :
    p'.Follows reqs (acts.foldl Ownership.next o) := by
  induction acts generalizing p o with
  | nil => exact Option.some.inj h ▸ hp
  | cons a acts ih =>
    obtain ⟨u, hu, hrun⟩ := Option.bind_eq_some_iff.1 h
    exact ih (follows_next hp hu) hrun

theorem follows_start {d : Shared ν} (hd : d.get? "admin_session" = none) :
    (Panel.start d).Follows reqs Ownership.start :=
  ⟨hd, fun _ => trivial⟩

/-- **In every interleaving of requests**, the session in the context of the router, which the
handlers of all requests read, is that of the request that published its context last, unless a
request that found no session when it saved the context has deleted the key since. -/
theorem session_of_owner (reqs : ℕ → Served ν) {d : Shared ν} {acts : List (ℕ × Turn ν)}
    {p : Panel ν} (hd : d.get? "admin_session" = none)
    (hrun : System.runFn (Panel.next reqs) (Panel.start d) acts = some p) :
    p.shared.get? "admin_session" =
      sessionOf reqs (acts.foldl Ownership.next Ownership.start).owner :=
  (follows_run (follows_start hd) hrun).session

/-- Two visits at once. -/
def crossing : List (ℕ × Turn Unit) :=
  [(0, .enter), (0, .save), (0, .publish), (1, .enter), (1, .save), (1, .publish)]

/-- While the first visit runs its handler, the context holds the session of the second one. -/
theorem session_of_second :
    ∃ p, System.runFn (Panel.next visit) (Panel.start .empty) crossing = some p ∧
      p.phase 0 = .running .empty ∧
      p.shared.get? "admin_session" = some (.session (some (visitor 1))) := by
  refine ⟨_, rfl, rfl, ?_⟩
  exact @session_of_owner Unit visit .empty crossing _ rfl rfl

end Server

end Admin

end AnnyRuntime
