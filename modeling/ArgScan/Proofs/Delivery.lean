import ArgScan.Proofs.Setup

/-!
# Delivery of records

A session can be set up again and again. This module shows that the handlers are always those of
the last setup, and that a record is then written once by each of them whose level lets it, and by
nothing else (`setupAll_delivers_once`). A record below the level of debug messages is an exception:
the session drops it before any handler is asked (`exists_record_not_delivered`).

Handlers write to places: the two outputs and the files. The handlers of one setup have different
places, and their files are open (`Serves`). So what one of them writes is not touched by the
others, and each place grows by the text of its own handler (`writesOnce_writeAll`). A handler for
the console remembers that it has shown the time; apart from that, writing leaves the handlers as
they are.
-/

namespace ArgScan.Log

/-! ## Places -/

/-- A place that is written to. -/
inductive Place where
  /-- The standard output. -/
  | output
  /-- The standard error output. -/
  | errors
  /-- A file. -/
  | file (path : String)
deriving DecidableEq

/-- The place that a sink writes to. -/
def Sink.place : Sink → Place
  | console _ => .output
  | errors => .errors
  | file path _ => .file path

/-- The sink before it has shown the time. -/
def Sink.fresh : Sink → Sink
  | console _ => console false
  | errors => errors
  | file path asJson => file path asJson

namespace Handler

/-- The place that a handler writes to. -/
def place (h : Handler) : Place := h.sink.place

/-- The handler before it has shown the time. -/
def fresh (h : Handler) : Handler := { h with sink := h.sink.fresh }

/-- The text that a handler writes for a record. -/
def text (h : Handler) (r : Record) : String :=
  match h.sink with
  | .console timeShown => Console.ofLines (r.consoleLines timeShown)
  | .errors => r.json ++ "\n"
  | .file _ asJson => (if asJson then r.json else r.plain) ++ "\n"

end Handler

namespace Streams

/-- The text at a place. -/
def text (s : Streams) : Place → String
  | .output => s.output
  | .errors => s.errors
  | .file path => (s.files.lookup path).getD ""

/-- A place can be written to: a file must be open. -/
def IsOpen (s : Streams) : Place → Prop
  | .output | .errors => True
  | .file path => (s.files.lookup path).isSome = true

end Streams

/-- A record is written once by each of the handlers whose level is not above its own, by no other,
and nowhere else. -/
structure WritesOnce (handlers : List Handler) (r : Record) (before after : Streams) : Prop where
  /-- A handler that lets the record adds its text. -/
  written : ∀ h ∈ handlers, h.level ≤ r.level → after.text h.place = before.text h.place ++ h.text r
  /-- A handler that does not let the record adds nothing. -/
  withheld : ∀ h ∈ handlers, r.level < h.level → after.text h.place = before.text h.place
  /-- Where no handler writes, nothing is added. -/
  untouched : ∀ place, (∀ h ∈ handlers, h.place ≠ place) → after.text place = before.text place

/-! ## One handler -/

variable {s : Streams} {h : Handler} {r : Record}

/-- Text is added to the file with the path, and to no other. -/
theorem lookup_addToFile (s : Streams) (path text p : String) :
    (s.addToFile path text).files.lookup p =
      (s.files.lookup p).map fun old => if p = path then old ++ text else old := by
  obtain ⟨_, _, files⟩ := s
  unfold Streams.addToFile
  induction files with
  | nil => rfl
  | cons file rest ih =>
    obtain ⟨name, old⟩ := file
    -- Whether text is added or not, the file keeps its name.
    have hfile : (if name = path then (path, old ++ text) else (name, old)) =
        (name, if name = path then old ++ text else old) := by
      split
      · next hname => rw [hname]
      · rfl
    simp only [List.map_cons, hfile, List.lookup_cons]
    by_cases hp : p = name
    · rw [hp, beq_self_eq_true, Option.map_some]
    · rw [beq_false_of_ne hp]
      exact ih

namespace Handler

/-- A handler above the level of a record does not write it. -/
theorem write_of_lt (hlevel : r.level < h.level) (s : Streams) : h.write r s = (h, s) :=
  if_pos hlevel

/-- Writing changes nothing of a handler but what it remembers. -/
theorem fresh_write (h : Handler) (r : Record) (s : Streams) : (h.write r s).1.fresh = h.fresh := by
  obtain ⟨sink, level⟩ := h
  unfold write
  split
  · rfl
  · cases sink <;> rfl

/-- Files that are open stay open. -/
theorem isOpen_write {place : Place} (hopen : s.IsOpen place) : (h.write r s).2.IsOpen place := by
  obtain ⟨sink, level⟩ := h
  unfold write
  split
  · exact hopen
  · cases place with
    | output => trivial
    | errors => trivial
    | file p =>
      cases sink with
      | console timeShown => exact hopen
      | errors => exact hopen
      | file path asJson =>
        simp only [Streams.IsOpen, lookup_addToFile, Option.isSome_map]
        exact hopen

/-- A handler adds its text to its place. -/
theorem text_write (hlevel : h.level ≤ r.level) (hopen : s.IsOpen h.place) :
    (h.write r s).2.text h.place = s.text h.place ++ h.text r := by
  obtain ⟨sink, level⟩ := h
  unfold write
  rw [if_neg (Int.not_lt.2 hlevel)]
  cases sink with
  | console timeShown => rfl
  | errors => exact String.append_assoc
  | file path asJson =>
    -- To a file that is not open nothing would be added.
    obtain ⟨old, hold⟩ := Option.isSome_iff_exists.1 hopen
    simp only [place, Sink.place, Streams.text, lookup_addToFile, hold, Option.map_some,
      Option.getD_some, if_true]
    rfl

/-- A handler adds nothing to other places. -/
theorem text_write_of_ne {place : Place} (hplace : h.place ≠ place) :
    (h.write r s).2.text place = s.text place := by
  obtain ⟨sink, level⟩ := h
  unfold write
  split
  · rfl
  · cases sink with
    | console timeShown =>
      cases place with
      | output => exact absurd rfl hplace
      | errors => rfl
      | file p => rfl
    | errors =>
      cases place with
      | output => rfl
      | errors => exact absurd rfl hplace
      | file p => rfl
    | file path asJson =>
      cases place with
      | output => rfl
      | errors => rfl
      | file p =>
        have hne : p ≠ path := fun heq => hplace (congrArg Place.file heq.symm)
        simp only [Streams.text, lookup_addToFile, if_neg hne, Option.map_id']

end Handler

/-! ## Handlers in a row -/

/-- Writing changes nothing of the handlers but what they remember. -/
theorem map_fresh_writeAll (r : Record) (handlers : List Handler) (s : Streams) :
    (writeAll r handlers s).1.map Handler.fresh = handlers.map Handler.fresh := by
  induction handlers generalizing s with
  | nil => rfl
  | cons h rest ih =>
    simp only [writeAll, List.map_cons, ih, h.fresh_write]

/-- Files that are open stay open. -/
theorem isOpen_writeAll (r : Record) (handlers : List Handler) {s : Streams} {place : Place}
    (hopen : s.IsOpen place) : (writeAll r handlers s).2.IsOpen place := by
  induction handlers generalizing s with
  | nil => exact hopen
  | cons h rest ih => exact ih (Handler.isOpen_write hopen)

/-- Handlers with different places, whose files are open, write a record once. -/
theorem writesOnce_writeAll (r : Record) {handlers : List Handler} {s : Streams}
    (hplaces : (handlers.map Handler.place).Nodup) (hopen : ∀ h ∈ handlers, s.IsOpen h.place) :
    WritesOnce handlers r s (writeAll r handlers s).2 := by
  induction handlers generalizing s with
  | nil => exact ⟨nofun, nofun, fun _ _ => rfl⟩
  | cons h rest ih =>
    obtain ⟨hfirst, hrest⟩ := List.nodup_cons.1 hplaces
    obtain ⟨hopenFirst, hopenRest⟩ := List.forall_mem_cons.1 hopen
    have hne : ∀ h' ∈ rest, h'.place ≠ h.place := fun h' hmem heq =>
      hfirst (heq ▸ List.mem_map_of_mem hmem)
    have hlater : WritesOnce rest r (h.write r s).2 (writeAll r (h :: rest) s).2 :=
      ih hrest fun h' hmem => Handler.isOpen_write (hopenRest h' hmem)
    -- The first handler does not touch the places of the others, and they do not touch its own.
    have hbefore : ∀ h' ∈ rest, (h.write r s).2.text h'.place = s.text h'.place := fun h' hmem =>
      Handler.text_write_of_ne (hne h' hmem).symm
    have hafter : (writeAll r (h :: rest) s).2.text h.place = (h.write r s).2.text h.place :=
      hlater.untouched h.place hne
    refine ⟨List.forall_mem_cons.2 ⟨fun hlevel => ?_, fun h' hmem hlevel => ?_⟩,
      List.forall_mem_cons.2 ⟨fun hlevel => ?_, fun h' hmem hlevel => ?_⟩, fun place hplace => ?_⟩
    · rw [hafter, Handler.text_write hlevel hopenFirst]
    · rw [hlater.written h' hmem hlevel, hbefore h' hmem]
    · rw [hafter, Handler.write_of_lt hlevel]
    · rw [hlater.withheld h' hmem hlevel, hbefore h' hmem]
    · obtain ⟨hplaceFirst, hplaceRest⟩ := List.forall_mem_cons.1 hplace
      rw [hlater.untouched place hplaceRest, Handler.text_write_of_ne hplaceFirst]

/-! ## A session that is set up -/

/-- A session as the options ask for it in a mode: it is open to debug messages, its handlers are
those of the options, and their files are open. -/
structure Session.Serves (s : Session) (o : Options) (mode : Mode) : Prop where
  /-- Debug messages are let through. -/
  level : s.level = debugLevel
  /-- The handlers are those of the options, but for what they remember. -/
  handlers : s.handlers.map Handler.fresh = o.handlers mode
  /-- Every handler can write to its place. -/
  isOpen : ∀ h ∈ s.handlers, s.streams.IsOpen h.place

/-- What a handler remembers does not say where it writes to. -/
theorem place_fresh (h : Handler) : h.fresh.place = h.place := by
  obtain ⟨sink, level⟩ := h
  cases sink <;> rfl

/-- Handlers that differ only in what they remember write to the same places. -/
theorem map_place_eq {handlers handlers' : List Handler}
    (h : handlers.map Handler.fresh = handlers'.map Handler.fresh) :
    handlers.map Handler.place = handlers'.map Handler.place := by
  have hplaces := congrArg (List.map Handler.place) h
  simpa only [List.map_map, Function.comp_def, place_fresh] using hplaces

/-- New handlers remember nothing. -/
theorem map_fresh_handlers (o : Options) (mode : Mode) :
    (o.handlers mode).map Handler.fresh = o.handlers mode := by
  unfold Options.handlers
  cases nonempty? o.file <;> cases mode <;> rfl

/-- The new handlers write to different places. -/
theorem nodup_places_handlers (o : Options) (mode : Mode) :
    ((o.handlers mode).map Handler.place).Nodup := by
  unfold Options.handlers
  cases nonempty? o.file with
  | none => simp
  | some path =>
    cases mode <;> simp [Options.consoleHandler, Mode.sink, Handler.place, Sink.place]

/-- A file that was opened is open. -/
theorem isOpen_openFile (s : Streams) (path : String) : (s.openFile path).IsOpen (.file path) := by
  change ((s.openFile path).files.lookup path).isSome = true
  unfold Streams.openFile
  split
  · assumption
  · rw [List.lookup_append, Option.isSome_or, List.lookup_cons_self, Option.isSome_some,
      Bool.or_true]

namespace Session

variable {s : Session} {o : Options} {mode : Mode}

/-- The session that a setup prepares serves its options. -/
theorem serves_prepared (s : Session) (o : Options) (mode : Mode) :
    (s.prepared o mode).Serves o mode where
  level := rfl
  handlers := map_fresh_handlers o mode
  isOpen := by
    have hconsole (streams : Streams) : streams.IsOpen (o.consoleHandler mode).place := by
      cases mode <;> trivial
    unfold prepared Options.handlers
    cases nonempty? o.file with
    | none => exact List.forall_mem_singleton.2 (hconsole _)
    | some path =>
      exact List.forall_mem_cons.2 ⟨hconsole _,
        List.forall_mem_singleton.2 (isOpen_openFile s.streams path)⟩

/-- A record below the level of debug messages is dropped. -/
theorem Serves.log_of_lt {r : Record} (h : s.Serves o mode) (hlevel : r.level < debugLevel) :
    s.log r = s := by
  unfold log
  rw [if_pos (h.level ▸ hlevel)]

/-- Another record goes to all handlers. -/
theorem Serves.log_of_le {r : Record} (h : s.Serves o mode) (hlevel : debugLevel ≤ r.level) :
    s.log r = { s with
      handlers := (writeAll r s.handlers s.streams).1
      streams := (writeAll r s.handlers s.streams).2 } := by
  unfold log
  rw [if_neg (Int.not_lt.2 (h.level ▸ hlevel))]

/-- A session that serves options still does so when a record was logged. -/
theorem Serves.log (h : s.Serves o mode) (r : Record) : (s.log r).Serves o mode := by
  by_cases hlevel : r.level < debugLevel
  · rwa [h.log_of_lt hlevel]
  · rw [h.log_of_le (Int.not_lt.1 hlevel)]
    have hfresh := map_fresh_writeAll r s.handlers s.streams
    refine ⟨h.level, hfresh.trans h.handlers, fun h' hmem => ?_⟩
    -- The handler writes where one of the handlers before wrote.
    have hplace : h'.place ∈ s.handlers.map Handler.place :=
      map_place_eq hfresh ▸ List.mem_map_of_mem hmem
    obtain ⟨old, hold, heq⟩ := List.mem_map.1 hplace
    exact isOpen_writeAll r s.handlers (heq ▸ h.isOpen old hold)

/-- A session that serves options still does so when a debug message was logged. -/
theorem Serves.debug (h : s.Serves o mode) (message : String) : (s.debug message).Serves o mode :=
  h.log { logger := programLogger, level := debugLevel, message }

/-- A session that serves options still does so when records were logged. -/
theorem Serves.foldl_log (h : s.Serves o mode) (records : List Record) :
    (records.foldl Session.log s).Serves o mode := by
  induction records generalizing s with
  | nil => exact h
  | cons r records ih => exact ih (h.log r)

/-- A session that serves options writes a record once. -/
theorem Serves.writesOnce {r : Record} (h : s.Serves o mode) (hlevel : debugLevel ≤ r.level) :
    WritesOnce s.handlers r s.streams (s.log r).streams := by
  rw [h.log_of_le hlevel]
  have hplaces : (s.handlers.map Handler.place).Nodup := by
    rw [map_place_eq (h.handlers.trans (map_fresh_handlers o mode).symm)]
    exact nodup_places_handlers o mode
  exact writesOnce_writeAll r hplaces h.isOpen

end Session

/-! ## Setting up again and again -/

/-- A setup of a session. -/
structure SetupCall where
  /-- The options. -/
  options : Options
  /-- The log mode of the environment. -/
  environment : Option String := none
  /-- Which files can be opened. -/
  canOpen : String → Bool := fun _ => true

namespace Session

/-- Sets up a session by one call. -/
def setupBy (s : Session) (call : SetupCall) : Session × Option SetupError :=
  s.setup call.canOpen call.options call.environment

/-- Sets up a session again and again, unless it fails. -/
def setupAll (s : Session) : List SetupCall → Except SetupError Session
  | [] => .ok s
  | call :: later =>
    match s.setupBy call with
    | (s, none) => s.setupAll later
    | (_, some error) => .error error

/-- A call that ends well gives a session that serves its options. -/
theorem serves_setupBy {s s' : Session} {call : SetupCall} (h : s.setupBy call = (s', none)) :
    ∃ mode : Mode, call.options.Names call.environment mode.word ∧ s'.Serves call.options mode := by
  -- The session is the prepared one after its first debug message.
  obtain ⟨mode, hsucceeds⟩ := setup_snd_eq_none_iff.1 (congrArg Prod.snd h)
  have hready := (setup_of_succeeds hsucceeds).symm.trans h
  obtain rfl := congrArg Prod.fst hready
  exact ⟨mode, hsucceeds.name, (s.serves_prepared call.options mode).debug _⟩

/-- Calls that end well end with the last one. -/
theorem exists_of_setupAll_append {s s' : Session} {calls : List SetupCall} {last : SetupCall}
    (h : s.setupAll (calls ++ [last]) = .ok s') : ∃ s₁ : Session, s₁.setupBy last = (s', none) := by
  -- What the earlier calls leave does not matter, as the last one sets up any session.
  induction calls generalizing s with
  | nil =>
    rw [List.nil_append, setupAll] at h
    split at h
    · next hcall => exact ⟨s, Except.ok.inj h ▸ hcall⟩
    · exact nomatch h
  | cons call calls ih =>
    rw [List.cons_append, setupAll] at h
    split at h
    · exact ih h
    · exact nomatch h

/-- However often a session was set up, its handlers are those of the last time: one for the
console, and one for the file if one is named. A record that is not below the level of debug
messages is written once by each of them whose level is not above its own, and by nothing else; a
record below that level changes nothing. This holds after any records. -/
theorem setupAll_delivers_once (s : Session) (calls : List SetupCall) (last : SetupCall)
    {s' : Session} (h : s.setupAll (calls ++ [last]) = .ok s') :
    ∃ mode : Mode, last.options.Names last.environment mode.word ∧
      ∀ records : List Record,
        let now := records.foldl Session.log s'
        now.handlers.map Handler.fresh = last.options.handlers mode ∧
        ∀ r : Record,
          (debugLevel ≤ r.level → WritesOnce now.handlers r now.streams (now.log r).streams) ∧
          (r.level < debugLevel → now.log r = now) := by
  obtain ⟨s₁, hlast⟩ := exists_of_setupAll_append h
  obtain ⟨mode, hname, hserves⟩ := serves_setupBy hlast
  refine ⟨mode, hname, fun records => ?_⟩
  have hnow := hserves.foldl_log records
  exact ⟨hnow.handlers, fun r => ⟨hnow.writesOnce, hnow.log_of_lt⟩⟩

/-- A session that was set up with a file and in JSON, and then without either. A warning is added
to the standard output alone. -/
theorem setupAll_delivers_once_reset :
    ∃ s : Session,
      setupAll {} [{ options := { mode := some "json", file := some "old.log" } },
        { options := {}, environment := some "" }] = .ok s ∧
      s.handlers.map Handler.fresh = [{ sink := .console false, level := warningLevel }] ∧
      ∀ message, let r : Record := { logger := programLogger, level := warningLevel, message }
        (∃ h ∈ s.handlers, (s.log r).streams.output = s.streams.output ++ h.text r) ∧
        (s.log r).streams.errors = s.streams.errors ∧
        (s.log r).streams.text (.file "old.log") = s.streams.text (.file "old.log") := by
  let first : SetupCall := { options := { mode := some "json", file := some "old.log" } }
  let last : SetupCall := { options := {}, environment := some "" }
  obtain ⟨s, hs⟩ : ∃ s, setupAll {} ([first] ++ [last]) = .ok s := ⟨_, rfl⟩
  obtain ⟨mode, hname, hrecords⟩ := setupAll_delivers_once {} [first] last hs
  obtain rfl : .cli = mode := Option.some.inj (ofName?_of_names hname)
  have hhandlers : s.handlers.map Handler.fresh =
      [{ sink := .console false, level := warningLevel }] := (hrecords []).1
  refine ⟨s, hs, hhandlers, fun message => ?_⟩
  let r : Record := { logger := programLogger, level := warningLevel, message }
  have hlevel : debugLevel ≤ warningLevel := by decide
  have honce : WritesOnce s.handlers r s.streams (s.log r).streams := ((hrecords []).2 r).1 hlevel
  -- There is one handler, for warnings on the standard output.
  obtain ⟨h, hsole, hfresh⟩ := List.map_eq_singleton_iff.1 hhandlers
  have hplace : h.place = .output := (place_fresh h).symm.trans (congrArg Handler.place hfresh)
  rw [hsole] at honce ⊢
  have hothers {place : Place} (hne : place ≠ .output) : ∀ h' ∈ [h], h'.place ≠ place :=
    List.forall_mem_singleton.2 (hplace ▸ hne.symm)
  refine ⟨⟨h, List.mem_singleton_self h, ?_⟩, honce.untouched .errors (hothers nofun),
    honce.untouched (.file "old.log") (hothers nofun)⟩
  have hadded := honce.written h (List.mem_singleton_self h)
    (Int.le_of_eq (congrArg Handler.level hfresh))
  rwa [hplace] at hadded

/-- A record can be dropped although a handler would take it, for it is below the level of debug
messages. -/
theorem exists_record_not_delivered :
    ∃ (call : SetupCall) (s : Session) (r : Record) (h : Handler),
      setupAll {} [call] = .ok s ∧ r.logger = programLogger ∧ h ∈ s.handlers ∧ h.level ≤ r.level ∧
        (s.log r).streams.text h.place ≠ s.streams.text h.place ++ h.text r := by
  let call : SetupCall := { options := { mode := some "json", consoleLevel := 0 } }
  let r : Record := { logger := programLogger, level := 5, message := "trace" }
  obtain ⟨s, hs⟩ : ∃ s, setupAll {} ([] ++ [call]) = .ok s := ⟨_, rfl⟩
  obtain ⟨s₁, hcall⟩ := exists_of_setupAll_append hs
  obtain ⟨mode, hname, hserves⟩ := serves_setupBy hcall
  obtain rfl : .json = mode := Option.some.inj (ofName?_of_names hname)
  -- Its one handler is for the standard error output, at the level zero.
  obtain ⟨⟨sink, level⟩, hsole, hfresh⟩ := List.map_eq_singleton_iff.1 hserves.handlers
  obtain ⟨hsink, rfl⟩ : sink.fresh = .errors ∧ level = 0 := Handler.mk.inj hfresh
  obtain rfl : sink = .errors := by
    cases sink with
    | errors => rfl
    | console timeShown => exact nomatch hsink
    | file path asJson => exact nomatch hsink
  refine ⟨call, s, r, ⟨.errors, 0⟩, hs, rfl, hsole ▸ List.mem_singleton_self _, by decide, ?_⟩
  rw [hserves.log_of_lt (by decide)]
  intro hsame
  -- The text of a record ends with a line break, so that adding it makes a difference.
  have hlength := congrArg String.length hsame
  have htext : (Handler.text ⟨.errors, 0⟩ r).length = r.json.length + 1 := String.length_append _ _
  rw [String.length_append, htext] at hlength
  omega

end Session

end ArgScan.Log
