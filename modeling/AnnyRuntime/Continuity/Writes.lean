import AnnyRuntime.Continuity.Replay

/-!
# Calls that write several lines

What a caller of the engine does to it is a list of writes, each of one line.  A crash cuts the
list, between two lines or within one, and a restart follows.

* `Synced` : a restart finds the memory.  This needs no line end at the end of the logs.
* `Whole` : both logs end at a line end.  An entry written to a log that does not is glued to its
  torn line, and lost (`tolerates_iff`).
* `finish_spec` : **what a call comes to, whether it crashes or not**: a restart after a crash
  finds what the call had written, the line that was cut included when its text is complete.
-/

namespace AnnyRuntime

namespace Continuity

open LineLog

/-- One line that is written. -/
inductive Write where
  | record (r : ContinuityRecord)
  | event (ev : EventRecord)
  deriving DecidableEq

/-- Where a call crashes: after so many writes, and after so many characters of the next line. -/
structure Crash where
  after : ℕ
  into : ℕ
  deriving DecidableEq

namespace ContinuityEngine

/-- One write. -/
def write (e : ContinuityEngine) : Write → ContinuityEngine
  | .record r => e.saveRecord r
  | .event ev => e.appendEvent ev

/-- Writes, one after the other. -/
def writeAll (e : ContinuityEngine) (ws : List Write) : ContinuityEngine := ws.foldl write e

/-- The text of the line of a write. -/
def lineOf (e : ContinuityEngine) : Write → List Char
  | .record r => recordLine r
  | .event ev => eventLine { ev with sequence := e.eventSequence + 1 }

/-- The beginning of a line at the end of a file. -/
def tearLine (file : Option ByteArray) (line : List Char) (n : ℕ) : Option ByteArray :=
  some (file.getD ByteArray.empty ++ Text.encode (line.take n))

/-- The files when a write is cut after `n` characters. -/
def tear (e : ContinuityEngine) (w : Write) (n : ℕ) : Disk :=
  match w with
  | .record _ => { e.disk with records := tearLine e.disk.records (e.lineOf w) n }
  | .event _ => { e.disk with events := tearLine e.disk.events (e.lineOf w) n }

/-- The files that a crash leaves. -/
def crashDisk (e : ContinuityEngine) (ws : List Write) (c : Crash) : Disk :=
  let e := e.writeAll (ws.take c.after)
  match ws[c.after]? with
  | some w => e.tear w c.into
  | none => e.disk

/-- What a call that writes `ws` comes to, when it crashes and the process restarts, and when it
does not. -/
def finish (e : ContinuityEngine) (ws : List Write) : Option Crash → Option ContinuityEngine
  | none => some (e.writeAll ws)
  | some c => init (e.crashDisk ws c)

/-- The writes that are found afterwards. -/
def landed (e : ContinuityEngine) (ws : List Write) : Option Crash → List Write
  | none => ws
  | some c =>
    ws.take c.after ++
      match ws[c.after]? with
      | some w => if ((e.writeAll (ws.take c.after)).lineOf w).length ≤ c.into then [w] else []
      | none => []

/-- The call changes a log. -/
def Touches (ws : List Write) : Option Crash → Prop
  | none => ws ≠ []
  | some c => ws ≠ [] ∧ ¬ (c.after = 0 ∧ c.into = 0)

end ContinuityEngine

/-! ### Memory and files -/

/-- A restart finds the memory. -/
structure Synced (e : ContinuityEngine) : Prop where
  /-- The record log builds the dictionary. -/
  records : ∃ t, fileText e.disk.records = some t ∧
    e.records = replayRecords (entries parseRecord t)
  /-- The event log builds the list. -/
  events : ∃ t, fileText e.disk.events = some t ∧
    (e.events, e.eventSequence) = replayEvents (entries parseEvent t)

/-- Both logs end at a line end. -/
structure Whole (disk : Disk) : Prop where
  /-- The record log. -/
  records : ∀ t, fileText disk.records = some t → Text.AtLineStart t
  /-- The event log. -/
  events : ∀ t, fileText disk.events = some t → Text.AtLineStart t

/-- The memories of two engines agree. -/
structure SameMemory (e e' : ContinuityEngine) : Prop where
  records : e.records = e'.records
  events : e.events = e'.events
  eventSequence : e.eventSequence = e'.eventSequence

variable {e : ContinuityEngine}

theorem SameMemory.refl (e : ContinuityEngine) : SameMemory e e := ⟨rfl, rfl, rfl⟩

theorem SameMemory.trans {e₁ e₂ e₃ : ContinuityEngine} (h : SameMemory e₁ e₂)
    (h' : SameMemory e₂ e₃) : SameMemory e₁ e₃ :=
  ⟨h.records.trans h'.records, h.events.trans h'.events, h.eventSequence.trans h'.eventSequence⟩

theorem Durable.synced (h : Durable e) : Synced e where
  records := by
    obtain ⟨t, ht, -, hr⟩ := h.records
    exact ⟨t, ht, hr⟩
  events := by
    obtain ⟨t, ht, -, he⟩ := h.events
    exact ⟨t, ht, he⟩

theorem Synced.durable (h : Synced e) (hw : Whole e.disk) : Durable e where
  records := by
    obtain ⟨t, ht, hr⟩ := h.records
    exact ⟨t, ht, hw.records t ht, hr⟩
  events := by
    obtain ⟨t, ht, he⟩ := h.events
    exact ⟨t, ht, hw.events t ht, he⟩

theorem Durable.writeAll (h : Durable e) (ws : List Write) : Durable (e.writeAll ws) := by
  induction ws generalizing e with
  | nil => exact h
  | cons w ws ih =>
    cases w with
    | record r => exact ih (h.saveRecord r)
    | event ev => exact ih (h.appendEvent ev)

/-- What a restart finds in files whose logs are replayed to the memory of `e`. -/
theorem init_of_replayed {disk : Disk}
    (hr : ∃ t, fileText disk.records = some t ∧ e.records = replayRecords (entries parseRecord t))
    (he : ∃ t, fileText disk.events = some t ∧
      (e.events, e.eventSequence) = replayEvents (entries parseEvent t)) :
    ∃ e', ContinuityEngine.init disk = some e' ∧ Synced e' ∧ SameMemory e' e := by
  obtain ⟨tR, htR, hr⟩ := hr
  obtain ⟨tE, htE, he⟩ := he
  obtain ⟨e', hl, hf⟩ := ContinuityEngine.load_spec (e := { disk := disk }) htR htE
  have hev := Prod.mk.inj (hf.events.trans he.symm)
  refine ⟨e', hl, ⟨⟨tR, by rw [hf.disk.1]; exact htR, hf.records⟩, ⟨tE, ?_, hf.events⟩⟩,
    hf.records.trans hr.symm, hev.1, hev.2⟩
  rw [hf.disk.2]
  exact htE

/-! ### A line that was cut -/

section Torn

variable {ε : Type*} {parse : List Char → Option ε} {u : List Char} {n : ℕ}

theorem fileText_tearLine {file : Option ByteArray} {line : List Char}
    (h : ∀ c ∈ line, Json.Printable c) :
    fileText (ContinuityEngine.tearLine file line n) =
      (fileText file).map (· ++ line.take n) :=
  Text.decode_append (Json.ascii_of_printable fun c hc => h c (List.mem_of_mem_take hc))

/-- Reading the beginning of an object's text: the object, when it is all of it, and otherwise
nothing. -/
theorem entries_take (parse : List Char → Option ε) (n : ℕ) {of : Json → Option ε}
    (hparse : ∀ l, parse l = (Json.loads l).bind of)
    (hu : Text.AtLineStart u) (ms : List (String × Json)) {x : ε}
    (hx : of (.obj ms) = some x) :
    entries parse (u ++ (Json.dumps (.obj ms)).take n) =
      entries parse u ++ if (Json.dumps (.obj ms)).length ≤ n then [x] else [] := by
  have hs := Json.solid_dumps_obj ms
  have hnb : ∀ c ∈ (Json.dumps (.obj ms)).take n, Text.NoBreak c := fun c hc =>
    hs.noBreak c (List.mem_of_mem_take hc)
  rw [entries_last hu hnb]
  congr 1
  split_ifs with hnil hle hle
  · rw [List.take_of_length_le hle, hs.strip_eq] at hnil
    exact absurd hnil hs.ne_nil
  · rfl
  · rw [List.take_of_length_le hle, hs.strip_eq, hparse, Json.loads_dumps, Option.bind_some, hx]
    rfl
  · -- what is stripped is a beginning of the text, and not all of it
    have hpre := (hs.isPrefix_strip (List.take_prefix n _)).trans (List.take_prefix n _)
    obtain ⟨q, hq⟩ := hpre
    have hne : q ≠ [] := by
      rintro rfl
      have hlen := Text.length_strip_le ((Json.dumps (.obj ms)).take n)
      rw [List.append_nil] at hq
      rw [hq, List.length_take] at hlen
      omega
    rw [hparse, Json.loads_torn hne hq]
    rfl

end Torn

/-- A write that was cut: a restart finds it when its text is complete, and otherwise finds what
was there before. -/
theorem Durable.init_tear (h : Durable e) (w : Write) (n : ℕ) :
    ∃ e', ContinuityEngine.init (e.tear w n) = some e' ∧ Synced e' ∧
      SameMemory e' (e.writeAll (if (e.lineOf w).length ≤ n then [w] else [])) := by
  obtain ⟨tR, hR, hsR, hr⟩ := h.records
  obtain ⟨tE, hE, hsE, he⟩ := h.events
  cases w with
  | record r =>
    have hline := entries_take parseRecord n (fun _ => rfl) hsR
      (Json.zipFields ContinuityRecord.fields r.values) (ContinuityRecord.ofJson_toJson r)
    refine init_of_replayed ⟨tR ++ (recordLine r).take n, ?_, ?_⟩ ⟨tE, hE, ?_⟩
    · change fileText (ContinuityEngine.tearLine e.disk.records (recordLine r) n) = _
      rw [fileText_tearLine (printable_recordLine r), hR]
      rfl
    · change _ = replayRecords (entries parseRecord (tR ++ (Json.dumps (.obj _)).take n))
      rw [hline, replayRecords, List.foldl_append, ← replayRecords, ← hr]
      change (e.writeAll (if (recordLine r).length ≤ n then _ else _)).records = _
      rw [show (recordLine r) = Json.dumps (.obj (Json.zipFields ContinuityRecord.fields r.values))
        from rfl]
      split_ifs <;> rfl
    · rw [← he]
      split_ifs <;> rfl
  | event ev =>
    set ev' := { ev with sequence := e.eventSequence + 1 } with hev'
    have hline := entries_take parseEvent n (fun _ => rfl) hsE
      (Json.zipFields EventRecord.fields ev'.values) (EventRecord.ofJson_toJson ev')
    refine init_of_replayed ⟨tR, hR, ?_⟩ ⟨tE ++ (eventLine ev').take n, ?_, ?_⟩
    · rw [← hr]
      split_ifs <;> rfl
    · change fileText (ContinuityEngine.tearLine e.disk.events (eventLine ev') n) = _
      rw [fileText_tearLine (printable_eventLine ev'), hE]
      rfl
    · change _ = replayEvents (entries parseEvent (tE ++ (Json.dumps (.obj _)).take n))
      rw [hline, replayEvents, List.foldl_append, ← replayEvents, ← he]
      change ((e.writeAll (if (eventLine ev').length ≤ n then _ else _)).events,
        (e.writeAll (if (eventLine ev').length ≤ n then _ else _)).eventSequence) = _
      rw [show (eventLine ev') = Json.dumps (.obj (Json.zipFields EventRecord.fields ev'.values))
        from rfl]
      split_ifs
      · -- the event is numbered above those before it, so that the replay takes it
        have hnot : ¬ ev'.sequence ≤ e.eventSequence := not_le.2 (Int.lt_succ _)
        change _ = putEvent (e.events, e.eventSequence) ev'
        rw [putEvent, if_neg hnot]
        rfl
      · rfl

/-! ### Calls -/

theorem landed_isPrefix (e : ContinuityEngine) (ws : List Write) (c : Option Crash) :
    e.landed ws c <+: ws := by
  cases c with
  | none => exact List.prefix_rfl
  | some c =>
    rw [ContinuityEngine.landed]
    cases hw : ws[c.after]? with
    | none => simpa using List.take_prefix c.after ws
    | some w =>
      have htake : ws.take c.after ++ [w] = ws.take (c.after + 1) := by
        rw [List.take_add_one, hw]
        rfl
      dsimp only
      split_ifs
      · rw [htake]
        exact List.take_prefix _ _
      · simpa using List.take_prefix c.after ws

theorem lineOf_ne_nil (e : ContinuityEngine) (w : Write) : e.lineOf w ≠ [] := by
  cases w with
  | record r => exact (solid_recordLine r).ne_nil
  | event ev => exact (solid_eventLine _).ne_nil

theorem fileText_tear_zero (e : ContinuityEngine) (w : Write) :
    fileText (e.tear w 0).records = fileText e.disk.records ∧
      fileText (e.tear w 0).events = fileText e.disk.events := by
  have hzero : ∀ (file : Option ByteArray) line, (∀ c ∈ line, Json.Printable c) →
      fileText (ContinuityEngine.tearLine file line 0) = fileText file := by
    intro file line hline
    rw [fileText_tearLine hline]
    simp
  cases w with
  | record r => exact ⟨hzero _ _ (printable_recordLine r), rfl⟩
  | event ev => exact ⟨rfl, hzero _ _ (printable_eventLine _)⟩

/-- A call that crashes before its first write leaves the logs as they were. -/
theorem untouched {ws : List Write} {k n : ℕ}
    (h : ¬ ContinuityEngine.Touches ws (some ⟨k, n⟩)) :
    e.landed ws (some ⟨k, n⟩) = [] ∧
      fileText (e.crashDisk ws ⟨k, n⟩).records = fileText e.disk.records ∧
      fileText (e.crashDisk ws ⟨k, n⟩).events = fileText e.disk.events := by
  cases ws with
  | nil => simp [ContinuityEngine.landed, ContinuityEngine.crashDisk, ContinuityEngine.writeAll]
  | cons w ws =>
    obtain ⟨rfl, rfl⟩ : k = 0 ∧ n = 0 := by
      by_contra hkn
      exact h ⟨List.cons_ne_nil _ _, hkn⟩
    refine ⟨?_, fileText_tear_zero e w⟩
    simp [ContinuityEngine.landed, ContinuityEngine.writeAll, lineOf_ne_nil]

/-- **What a call comes to.**  Unless it writes to a log that does not end at a line end, the
engine after it has the memory of one that made the writes that landed. -/
theorem Synced.finish_spec (h : Synced e) {ws : List Write} {c : Option Crash}
    (hw : ContinuityEngine.Touches ws c → Whole e.disk) :
    ∃ e', e.finish ws c = some e' ∧ Synced e' ∧ SameMemory e' (e.writeAll (e.landed ws c)) := by
  cases c with
  | none =>
    refine ⟨_, rfl, ?_, SameMemory.refl _⟩
    -- a call that writes nothing asks nothing of the logs
    by_cases hws : ws = []
    · subst hws
      exact h
    · exact ((h.durable (hw hws)).writeAll ws).synced
  | some c =>
    obtain ⟨k, n⟩ := c
    -- a crash that comes before the first byte asks nothing of the logs
    by_cases ht : ContinuityEngine.Touches ws (some ⟨k, n⟩)
    · have hd := (h.durable (hw ht)).writeAll (ws.take k)
      have happ : ∀ l, e.writeAll (ws.take k ++ l) = (e.writeAll (ws.take k)).writeAll l := by
        intro l
        exact List.foldl_append
      simp only [ContinuityEngine.finish, ContinuityEngine.crashDisk, ContinuityEngine.landed]
      cases hk : ws[k]? with
      | none =>
        rw [happ]
        exact init_of_replayed hd.synced.records hd.synced.events
      | some w =>
        dsimp only
        rw [happ]
        exact hd.init_tear w n
    · obtain ⟨hl, hR, hE⟩ := untouched (e := e) ht
      rw [hl]
      exact init_of_replayed (by rw [hR]; exact h.records) (by rw [hE]; exact h.events)

end Continuity

end AnnyRuntime
