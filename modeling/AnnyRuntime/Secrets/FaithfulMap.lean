import AnnyRuntime.Secrets.FileBackend

/-!
# The file secret backend is a map

The specification is a map of references to values.  A call does what it does to the map when it is
rejected and changes nothing, or acts on one file; a store that is interrupted leaves the previous
map or the new one.  The map is shown by what is retrieved and listed, by the backend and by the
broker of each account.

* `Kept.of_right`, `Kept.exists_right` : a call that does what it does to the map keeps the files of
  the map, and every call that meets the condition is one.
* `faithful_map_iff` : **the backend is a faithful map in a run exactly when every reference is
  rejected or names a file that there can be, and no store is interrupted inside the file.**
-/

namespace AnnyRuntime

namespace Secrets

namespace FileSecretBackend

open AccountCredentialBroker (broker refPrefix)

/-! ### The map -/

/-- A call of the store. -/
inductive Call where
  | store (reference : String) (value : List UInt8)
  | delete (reference : String)
  | retrieve (reference : String)
  /-- A store that the process ends in. -/
  | interrupted (reference : String) (value : List UInt8) (crash : Crash)

/-- The stored values. -/
abbrev Stored := String → Option (List UInt8)

namespace Host

variable (H : Host)

/-- The files after a call. -/
def after (s : Files) : Call → Files
  | .store reference value => (H.store reference value s).2
  | .delete reference => (H.delete reference s).2
  | .retrieve _ => s
  | .interrupted reference value crash => H.interruptedStore reference value crash s

/-- The reference is one of a file directly in the directory, and no other file is changed. -/
structure ActsOn (reference : String) (s s' : Files) (name : PathName) : Prop where
  path : H.safeReference reference = .ok (H.dir ++ [name])
  others : ∀ n, n ≠ name → s'.contents.get? n = s.contents.get? n

/-- A call does what it does to the map, from `m` to `m'`: it is rejected and changes nothing, or
acts on one file. -/
def Right (m : Stored) (s : Files) (m' : Stored) : Call → Prop
  | .store r value =>
    (H.store r value s).1 = .error .unsafeReference ∧ (H.store r value s).2 = s ∧ m' = m ∨
      (H.store r value s).1 = .ok true ∧ (∃ name, H.ActsOn r s (H.store r value s).2 name) ∧
        m' = Function.update m r (some value)
  | .delete r =>
    (H.delete r s).1 = .error .unsafeReference ∧ (H.delete r s).2 = s ∧ m' = m ∨
      (H.delete r s).1 = .ok (m r).isSome ∧ (∃ name, H.ActsOn r s (H.delete r s).2 name) ∧
        m' = Function.update m r none
  | .retrieve r =>
    (H.retrieve r s = .error .unsafeReference ∨ H.retrieve r s = .ok (m r)) ∧ m' = m
  | .interrupted r value crash =>
    (H.interruptedStore r value crash s).contents = s.contents ∧ m' = m ∨
      (∃ name, H.ActsOn r s (H.interruptedStore r value crash s) name) ∧
        (m' = m ∨ m' = Function.update m r (some value))

end Host

/-- A backend shows the map, of the references that it lists. -/
structure Shows {ε : Type} (B : SecretBackend Files ε) (lists : String → Bool) (m : Stored)
    (s : Files) : Prop where
  retrieve : ∀ reference value, B.retrieve reference s = .ok value → value = m reference
  listed : ∃ references, B.listReferences s = .ok references ∧ references.Nodup ∧
    ∀ r, r ∈ references ↔ lists r = true ∧ (m r).isSome = true

namespace Host

variable (H : Host)

/-- The map is shown by the backend, and by the broker of each account. -/
def Shown (m : Stored) (s : Files) : Prop :=
  Shows H.backend (fun _ => true) m s ∧
    ∀ accountId, Shows (broker H.backend accountId) (startsWith · (refPrefix accountId)) m s

/-- The calls do what they do to the map, which is shown all the time. -/
def Faithful (m : Stored) (s : Files) : List Call → Prop
  | [] => H.Shown m s
  | c :: cs => H.Shown m s ∧ ∃ m', H.Right m s m' c ∧ Faithful m' (H.after s c) cs

/-- The condition on a call. -/
def Fine : Call → Prop
  | .store reference _ | .delete reference | .retrieve reference => H.Names reference
  | .interrupted reference _ crash =>
    (∃ name, H.safeReference reference = .ok (H.dir ++ [name]) ∧ H.holds name = true) →
      crash = .beforeOpen ∨ crash = .missing 0

end Host

variable {H : Host} {m m' : Stored} {s s' : Files} {r : String} {name : PathName}
  {value : List UInt8} {c : Call}

/-! ### Files of the map -/

/-- A file is the token of a value, and there is none without a value. -/
def Encrypted (H : Host) (content value : Option (List UInt8)) : Prop :=
  content = none ∧ value = none ∨ ∃ n v, content = some (H.encrypt n v) ∧ value = some v

/-- The files are those of the values of the map. -/
structure Kept (H : Host) (m : Stored) (s : Files) : Prop where
  located : ∀ name, s.contents.contains name = true →
    H.locate (String.ofList name.text) = .ok name
  file : ∀ r name, H.locate r = .ok name → Encrypted H (s.contents.get? name) (m r)
  nowhere : ∀ r e, H.locate r = .error e → m r = none

theorem Encrypted.bind_decrypt (hH : H.Lawful) {content value : Option (List UInt8)}
    (h : Encrypted H content value) : content.bind H.decrypt = value := by
  obtain ⟨rfl, rfl⟩ | ⟨n, v, rfl, rfl⟩ := h
  · rfl
  · exact hH.decrypt_encrypt n v

theorem Encrypted.isSome_eq {content value : Option (List UInt8)}
    (h : Encrypted H content value) : content.isSome = value.isSome := by
  obtain ⟨rfl, rfl⟩ | ⟨n, v, rfl, rfl⟩ := h <;> rfl

theorem mem_iterdir_iff (hH : H.Lawful) {files : Dict PathName (List UInt8)} :
    name ∈ H.iterdir files.keys ↔ files.contains name = true := by
  rw [(hH.iterdir _).mem_iff, ← not_iff_not, ← Dict.get?_eq_none_iff]
  simp [Dict.contains]

theorem nodup_listReferences (hH : H.Lawful) (s : Files) : (H.listReferences s).Nodup := by
  have hinj : Function.Injective fun name : PathName => String.ofList name.text := fun a b hab =>
    PathName.ext (String.ofList_injective hab)
  exact ((hH.iterdir _).nodup_iff.2 s.contents.nodup).map hinj

namespace Kept

theorem new (H : Host) : Kept H (fun _ => none) Files.new where
  located _ h := by simp [Files.new, Dict.contains] at h
  file _ _ _ := .inl ⟨rfl, rfl⟩
  nowhere _ _ _ := rfl

theorem congr (h : Kept H m s) (hs : s'.contents = s.contents) : Kept H m s' where
  located name hname := h.located name (hs ▸ hname)
  file r name hr := hs ▸ h.file r name hr
  nowhere := h.nowhere

theorem retrieve_eq (hH : H.Lawful) (h : Kept H m s) (hr : H.locate r = .ok name) :
    H.retrieve r s = .ok (m r) := by
  rw [retrieve_of_locate hr, (h.file r name hr).bind_decrypt hH]

/-- A reference is listed when it has a value. -/
theorem mem_listReferences_iff (hH : H.Lawful) (h : Kept H m s) :
    r ∈ H.listReferences s ↔ (m r).isSome = true := by
  simp only [Host.listReferences, List.mem_map, mem_iterdir_iff hH]
  constructor
  · rintro ⟨name, hname, rfl⟩
    rw [← (h.file _ name (h.located name hname)).isSome_eq]
    exact hname
  · intro hsome
    cases hr : H.locate r with
    | error e =>
      rw [h.nowhere r e hr] at hsome
      cases hsome
    | ok name =>
      refine ⟨name, ?_, (eq_of_locate hH hr).symm⟩
      rw [Dict.contains, (h.file r name hr).isSome_eq, hsome]

/-- **The map is shown.** -/
theorem shown (hH : H.Lawful) (h : Kept H m s) : H.Shown m s := by
  have hretrieve (r : String) (value : Option (List UInt8)) (hv : H.retrieve r s = .ok value) :
      value = m r := by
    cases hr : H.locate r with
    | error e =>
      rw [retrieve_of_locate_error hr] at hv
      cases hv
    | ok name => exact Except.ok.inj (hv.symm.trans (h.retrieve_eq hH hr))
  refine ⟨⟨hretrieve, _, rfl, nodup_listReferences hH s, fun r => ?_⟩, fun accountId => ⟨?_, _, rfl,
    (nodup_listReferences hH s).filter _, fun r => ?_⟩⟩
  · simp [h.mem_listReferences_iff hH]
  · intro r value hv
    have hv' : AccountCredentialBroker.checked accountId r (H.retrieve r s) = .ok value := hv
    rw [AccountCredentialBroker.checked] at hv'
    split at hv'
    · cases hv'
    · cases hread : H.retrieve r s with
      | error e =>
        rw [hread] at hv'
        cases hv'
      | ok value' =>
        rw [hread] at hv'
        obtain rfl : value' = value := Except.ok.inj hv'
        exact hretrieve r value' hread
  · rw [List.mem_filter, h.mem_listReferences_iff hH, and_comm]

/-- One file is changed, and the value of its reference. -/
theorem update (hH : H.Lawful) (h : Kept H m s) (hr : H.locate r = .ok name)
    (hothers : ∀ n, n ≠ name → s'.contents.get? n = s.contents.get? n)
    {v : Option (List UInt8)} (hfile : Encrypted H (s'.contents.get? name) v) :
    Kept H (Function.update m r v) s' where
  located n hn := by
    by_cases hname : n = name
    · rw [hname, ← eq_of_locate hH hr, hr]
    · refine h.located n ?_
      rwa [Dict.contains, ← hothers n hname]
  file r' n hn := by
    by_cases hname : n = name
    · subst hname
      rw [eq_of_locate hH hn, ← eq_of_locate hH hr, Function.update_self]
      exact hfile
    · have hne : r' ≠ r := by
        rintro rfl
        exact hname (Except.ok.inj (hn.symm.trans hr))
      rw [hothers n hname, Function.update_of_ne hne]
      exact h.file r' n hn
  nowhere r' e he := by
    have hne : r' ≠ r := by
      rintro rfl
      rw [hr] at he
      cases he
    rw [Function.update_of_ne hne]
    exact h.nowhere r' e he

/-- The map that is shown is known when all but one of its values are. -/
theorem eq_of_shown (hH : H.Lawful) (h : Kept H m s) (hm' : H.Shown m' s)
    (hothers : ∀ r', r' ≠ r → m' r' = m r') : m' = m := by
  have hsome : (m' r).isSome = true ↔ (m r).isSome = true := by
    obtain ⟨references, hlist, -, hmem⟩ := hm'.1.listed
    obtain rfl : H.listReferences s = references := Except.ok.inj hlist
    rw [← h.mem_listReferences_iff hH, hmem r]
    simp
  have hself : m' r = m r := by
    cases hr : H.locate r with
    | error e =>
      rw [h.nowhere r e hr] at hsome ⊢
      simpa using hsome
    | ok name => exact (hm'.1.retrieve r (m r) (h.retrieve_eq hH hr)).symm
  funext r'
  by_cases hr' : r' = r
  · rw [hr', hself]
  · exact hothers r' hr'

end Kept

/-! ### One call -/

/-- A store that the process ends in, in the file of its reference. -/
theorem actsOn_interrupted (hr : H.locate r = .ok name) (value : List UInt8) (bytes : ℕ)
    (s : Files) : H.ActsOn r s (H.interruptedStore r value (.missing bytes) s) name := by
  refine ⟨(locate_eq_ok_iff.1 hr).1, fun n hn => ?_⟩
  rw [interrupted_of_locate hr]
  exact Dict.get?_set_ne hn _

/-- **A part of a token is in no map**: the reference is listed, and has no value. -/
theorem not_shown_missing (hH : H.Lawful) (hr : H.locate r = .ok name) {bytes : ℕ}
    (hbytes : bytes ≠ 0) :
    ¬ H.Shown m' (H.interruptedStore r value (.missing bytes) s) := by
  intro hshown
  rw [interrupted_of_locate hr] at hshown
  have hpos := List.length_pos_iff.2 (hH.encrypt_ne_nil s.encrypted value)
  have hnone : m' r = none := by
    refine (hshown.1.retrieve r none ?_).symm
    refine (retrieve_of_locate hr _).trans (congrArg Except.ok ?_)
    rw [Dict.get?_set_self, Option.bind_some, hH.decrypt_take _ _ _ (by omega)]
  obtain ⟨references, hlist, -, hmem⟩ := hshown.1.listed
  have hlisted : r ∈ references := by
    rw [← Except.ok.inj hlist]
    refine List.mem_map.2 ⟨name, ?_, (eq_of_locate hH hr).symm⟩
    rw [mem_iterdir_iff hH, Dict.contains, Dict.get?_set_self]
    rfl
  simpa [hnone] using (hmem r).1 hlisted

namespace Kept

/-- A store in the file of its reference. -/
theorem store (hH : H.Lawful) (h : Kept H m s) (hr : H.locate r = .ok name) (value : List UInt8) :
    H.ActsOn r s (H.store r value s).2 name ∧
      Kept H (Function.update m r (some value)) (H.store r value s).2 := by
  have hothers (n : PathName) (hn : n ≠ name) :
      (H.store r value s).2.contents.get? n = s.contents.get? n := by
    rw [store_of_locate hr]
    exact Dict.get?_set_ne hn _
  refine ⟨⟨(locate_eq_ok_iff.1 hr).1, hothers⟩, h.update hH hr hothers (.inr ?_)⟩
  rw [store_of_locate hr]
  exact ⟨_, value, Dict.get?_set_self _ _, rfl⟩

/-- Deleting the file of a reference. -/
theorem delete (hH : H.Lawful) (h : Kept H m s) (hr : H.locate r = .ok name) :
    (H.delete r s).1 = .ok (m r).isSome ∧ H.ActsOn r s (H.delete r s).2 name ∧
      Kept H (Function.update m r none) (H.delete r s).2 := by
  obtain ⟨hanswer, hget⟩ := delete_of_locate hr s
  have hothers (n : PathName) (hn : n ≠ name) :
      (H.delete r s).2.contents.get? n = s.contents.get? n := by
    rw [hget, if_neg hn]
  refine ⟨?_, ⟨(locate_eq_ok_iff.1 hr).1, hothers⟩, h.update hH hr hothers (.inl ⟨?_, rfl⟩)⟩
  · rw [hanswer, Dict.contains, (h.file r name hr).isSome_eq]
  · rw [hget, if_pos rfl]

/-- A token that is complete is the new value. -/
theorem interrupted_zero (hH : H.Lawful) (h : Kept H m s) (hr : H.locate r = .ok name)
    (value : List UInt8) :
    Kept H (Function.update m r (some value)) (H.interruptedStore r value (.missing 0) s) := by
  refine h.update hH hr (actsOn_interrupted hr value 0 s).others (.inr ?_)
  rw [interrupted_of_locate hr, Nat.sub_zero, List.take_length]
  exact ⟨_, value, Dict.get?_set_self _ _, rfl⟩

/-- **A call that meets the condition does what it does to a map.** -/
theorem exists_right (hH : H.Lawful) (h : Kept H m s) (hc : H.Fine c) :
    ∃ m', H.Right m s m' c ∧ Kept H m' (H.after s c) := by
  cases c with
  | store r value =>
    obtain ⟨name, hr⟩ | hr := eq_ok_or_unsafe hc
    · obtain ⟨hacts, hkept⟩ := h.store hH hr value
      exact ⟨_, .inr ⟨congrArg Prod.fst (store_of_locate hr value s), ⟨name, hacts⟩, rfl⟩, hkept⟩
    · have hstore := store_of_unsafe hr value s
      refine ⟨m, .inl ⟨congrArg Prod.fst hstore, congrArg Prod.snd hstore, rfl⟩, ?_⟩
      exact h.congr (congrArg (·.2.contents) hstore)
  | delete r =>
    obtain ⟨name, hr⟩ | hr := eq_ok_or_unsafe hc
    · obtain ⟨hanswer, hacts, hkept⟩ := h.delete hH hr
      exact ⟨_, .inr ⟨hanswer, ⟨name, hacts⟩, rfl⟩, hkept⟩
    · have hdelete := delete_of_locate_error hr s
      refine ⟨m, .inl ⟨congrArg Prod.fst hdelete, congrArg Prod.snd hdelete, rfl⟩, ?_⟩
      exact h.congr (congrArg (·.2.contents) hdelete)
  | retrieve r =>
    obtain ⟨name, hr⟩ | hr := eq_ok_or_unsafe hc
    · exact ⟨m, ⟨.inr (h.retrieve_eq hH hr), rfl⟩, h⟩
    · exact ⟨m, ⟨.inl (retrieve_of_locate_error hr s), rfl⟩, h⟩
  | interrupted r value crash =>
    have hsame (hs : (H.interruptedStore r value crash s).contents = s.contents) :
        ∃ m', H.Right m s m' (.interrupted r value crash) ∧
          Kept H m' (H.after s (.interrupted r value crash)) :=
      ⟨m, .inl ⟨hs, rfl⟩, h.congr hs⟩
    cases hr : H.locate r with
    | error e => exact hsame (interrupted_of_locate_error hr value crash s)
    | ok name =>
      obtain rfl | rfl := hc ⟨name, locate_eq_ok_iff.1 hr⟩
      · exact hsame (interrupted_beforeOpen r value s)
      · have hacts := actsOn_interrupted hr value 0 s
        exact ⟨_, .inr ⟨⟨name, hacts⟩, .inr rfl⟩, h.interrupted_zero hH hr value⟩

/-- **A call that does what it does to a map meets the condition**, and keeps the files of the map
that is shown after it. -/
theorem of_right (hH : H.Lawful) (h : Kept H m s) (hright : H.Right m s m' c)
    (hshown : H.Shown m' (H.after s c)) : H.Fine c ∧ Kept H m' (H.after s c) := by
  cases c with
  | store r value =>
    obtain ⟨hanswer, hs, rfl⟩ | ⟨hanswer, -, rfl⟩ := hright
    · refine ⟨?_, h.congr (congrArg Files.contents hs)⟩
      rw [Host.Fine, names_iff]
      intro hr
      rw [(store_of_locate_error hr value s).1] at hanswer
      cases hanswer
    · cases hr : H.locate r with
      | error e =>
        rw [(store_of_locate_error hr value s).1] at hanswer
        cases hanswer
      | ok name => exact ⟨names_of_ok hr, (h.store hH hr value).2⟩
  | delete r =>
    obtain ⟨hanswer, hs, rfl⟩ | ⟨hanswer, -, rfl⟩ := hright
    · refine ⟨?_, h.congr (congrArg Files.contents hs)⟩
      rw [Host.Fine, names_iff]
      intro hr
      rw [delete_of_locate_error hr] at hanswer
      cases hanswer
    · cases hr : H.locate r with
      | error e =>
        rw [delete_of_locate_error hr] at hanswer
        cases hanswer
      | ok name => exact ⟨names_of_ok hr, (h.delete hH hr).2.2⟩
  | retrieve r =>
    obtain ⟨hanswer, rfl⟩ := hright
    refine ⟨?_, h⟩
    rw [Host.Fine, names_iff]
    intro hr
    rw [retrieve_of_locate_error hr] at hanswer
    rcases hanswer with hanswer | hanswer <;> cases hanswer
  | interrupted r value crash =>
    have hothers (r' : String) (hr' : r' ≠ r) : m' r' = m r' := by
      obtain ⟨-, rfl⟩ | ⟨-, rfl | rfl⟩ := hright
      · rfl
      · rfl
      · exact Function.update_of_ne hr' _ _
    have hfine : H.Fine (.interrupted r value crash) := by
      rintro ⟨name, hname⟩
      have hr := locate_eq_ok_iff.2 hname
      cases crash with
      | beforeOpen => exact .inl rfl
      | missing bytes =>
        by_contra hbytes
        exact not_shown_missing hH hr (fun hzero => hbytes (.inr (hzero ▸ rfl))) hshown
    -- the map after the call is the one that the condition gives
    obtain ⟨m₁, hright₁, hkept⟩ := h.exists_right hH hfine
    obtain rfl : m' = m₁ := by
      refine hkept.eq_of_shown hH (r := r) hshown fun r' hr' => (hothers r' hr').trans ?_
      obtain ⟨-, rfl⟩ | ⟨-, rfl | rfl⟩ := hright₁
      · rfl
      · rfl
      · exact (Function.update_of_ne hr' _ _).symm
    exact ⟨hfine, hkept⟩

end Kept

/-! ### Runs -/

theorem faithful_iff_of_kept (hH : H.Lawful) {cs : List Call} (h : Kept H m s) :
    H.Faithful m s cs ↔ ∀ c ∈ cs, H.Fine c := by
  induction cs generalizing m s with
  | nil => exact iff_of_true (h.shown hH) nofun
  | cons c cs ih =>
    rw [List.forall_mem_cons]
    constructor
    · rintro ⟨-, m', hright, hrest⟩
      have hshown : H.Shown m' (H.after s c) := by
        cases cs with
        | nil => exact hrest
        | cons c' cs => exact hrest.1
      obtain ⟨hfine, hkept⟩ := h.of_right hH hright hshown
      exact ⟨hfine, (ih hkept).1 hrest⟩
    · rintro ⟨hfine, hrest⟩
      obtain ⟨m', hright, hkept⟩ := h.exists_right hH hfine
      exact ⟨h.shown hH, m', hright, (ih hkept).2 hrest⟩

/-- **When the backend is a faithful map.** -/
theorem faithful_map_iff (hH : H.Lawful) (calls : List Call) :
    H.Faithful (fun _ => none) Files.new calls ↔ ∀ c ∈ calls, H.Fine c :=
  faithful_iff_of_kept hH (Kept.new H)

/-! ### A directory -/

/-- A token that ends where its bytes say so. -/
def encode : List UInt8 → List UInt8
  | [] => [0]
  | b :: value => 1 :: b :: encode value

/-- The value of such a token. -/
def decode : List UInt8 → Option (List UInt8)
  | [] => none
  | [b] => if b = 0 then some [] else none
  | a :: b :: rest => if a = 1 then (decode rest).map (b :: ·) else none

/-- A directory in the root, with names that are not too long. -/
def plainHost : Host where
  dir := [⟨"secrets".toList, by decide⟩]
  word c := c.isAlphanum || c == '_'
  holds name := name.text.length ≤ 255
  iterdir names := names
  encrypt _ := encode
  decrypt := decode

theorem decode_encode (value : List UInt8) : decode (encode value) = some value := by
  induction value with
  | nil => rfl
  | cons b value ih => simp [encode, decode, ih]

theorem decode_take (value : List UInt8) {k : ℕ} (hk : k < (encode value).length) :
    decode ((encode value).take k) = none := by
  induction value generalizing k with
  | nil =>
    obtain rfl : k = 0 := Nat.lt_one_iff.1 hk
    rfl
  | cons b value ih =>
    match k with
    | 0 => rfl
    | 1 => rfl
    | k + 2 =>
      have hk' : k < (encode value).length := by
        simp only [encode, List.length_cons] at hk
        omega
      simp [encode, decode, ih hk']

theorem plainHost_lawful : plainHost.Lawful where
  word := by decide
  iterdir _ := List.Perm.refl _
  encrypt_ne_nil _ value := by cases value <;> exact List.cons_ne_nil _ _
  decrypt_encrypt _ := decode_encode
  decrypt_take _ value _ := decode_take value

theorem plainHost_locate : plainHost.locate "token" = .ok ⟨"token".toList, by decide⟩ := by
  decide

/-- Stores that are not interrupted in the file, one of a reference that is rejected. -/
theorem faithful_token :
    plainHost.Lawful ∧ plainHost.Faithful (fun _ => none) Files.new
      [.store "token" [7], .store "../token" [8], .retrieve "token",
        .interrupted "token" [9] .beforeOpen, .interrupted "token" [9] (.missing 0),
        .delete "token"] := by
  refine ⟨plainHost_lawful, (faithful_map_iff plainHost_lawful _).2 ?_⟩
  have htoken := names_of_ok plainHost_locate
  have hparent : plainHost.Names "../token" := names_of_unsafe (by decide)
  simp [Host.Fine, htoken, hparent]

/-- **A store that is interrupted loses the previous value**, and the reference is still listed. -/
theorem not_faithful_interrupted :
    plainHost.Lawful ∧
      (let calls := [Call.store "token" [7], .interrupted "token" [9] (.missing 1)]
       ¬ plainHost.Faithful (fun _ => none) Files.new calls ∧
        plainHost.retrieve "token" (calls.foldl plainHost.after Files.new) = .ok none ∧
        plainHost.listReferences (calls.foldl plainHost.after Files.new) = ["token"]) := by
  refine ⟨plainHost_lawful, ?_, by decide, by decide⟩
  rintro ⟨-, m₁, -, -, m₂, -, hshown⟩
  exact not_shown_missing plainHost_lawful plainHost_locate one_ne_zero hshown

end FileSecretBackend

end Secrets

end AnnyRuntime
