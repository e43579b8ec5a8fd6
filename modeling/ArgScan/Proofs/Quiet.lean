import ArgScan.Program
import ArgScan.Proofs.Delivery

/-!
# Quiet sessions

Without the option for more output, and with no file to log to, the only handler of a session is for
warnings. Debug messages then reach no handler, so that a command prints its report and nothing else
(`IsQuiet.debug`, `playAll_debug_append`). The one way for the setup to fail is a log mode of the
environment that does not exist (`runRequest_of_mode`, `runRequest_of_no_mode`).
-/

namespace ArgScan

namespace Log

/-- No handler writes debug messages. -/
def Session.IsQuiet (s : Session) : Prop := ∀ h ∈ s.handlers, debugLevel < h.level

/-- A record below the level of every handler is not written. -/
theorem writeAll_of_forall_lt {r : Record} {handlers : List Handler}
    (h : ∀ handler ∈ handlers, r.level < handler.level) (s : Streams) :
    writeAll r handlers s = (handlers, s) := by
  induction handlers with
  | nil => rfl
  | cons handler rest ih =>
    obtain ⟨hhandler, hrest⟩ := List.forall_mem_cons.1 h
    simp only [writeAll, Handler.write_of_lt hhandler, ih hrest]

namespace Session

variable {s : Session}

/-- A debug message does nothing to a quiet session. -/
theorem IsQuiet.debug (h : s.IsQuiet) (message : String) : s.debug message = s := by
  -- The level of the session may let the message pass, but then no handler takes it.
  let r : Record := { logger := programLogger, level := debugLevel, message }
  have hwritten : writeAll r s.handlers s.streams = (s.handlers, s.streams) :=
    writeAll_of_forall_lt (r := r) h s.streams
  unfold Session.debug log
  split
  · rfl
  · rw [hwritten]

/-- A setup without a file, whose console is for records above debug messages, gives a quiet session
in which nothing is written. -/
theorem exists_setup_of_mode (canOpen : String → Bool) {o : Options} {environment : Option String}
    {mode : Mode} (hfile : nonempty? o.file = none) (hlevel : debugLevel < o.consoleLevel)
    (hmode : Mode.ofName? (o.modeName environment) = some mode) :
    ∃ s' : Session, s'.IsQuiet ∧ s'.streams = s.streams ∧
      setup canOpen o environment s = (s', none) := by
  have hsucceeds : o.Succeeds canOpen environment mode := by
    refine ⟨names_iff.2 (word_of_ofName?_eq_some hmode).symm, fun path hpath hne => ?_⟩
    exact nomatch hfile.symm.trans (nonempty?_eq_some_iff.2 ⟨hpath, hne⟩)
  have hquiet : (s.prepared o mode).IsQuiet := by
    unfold IsQuiet prepared Options.handlers
    rw [hfile]
    exact List.forall_mem_singleton.2 hlevel
  refine ⟨s.prepared o mode, hquiet, ?_, ?_⟩
  · unfold prepared
    rw [hfile]
  · rw [setup_of_succeeds hsucceeds, hquiet.debug]

end Session

/-- Without a log mode in the environment records go to the console. -/
theorem ofName?_modeName_none : Mode.ofName? (Options.modeName {} none) = some .cli := rfl

end Log

/-! ## Commands -/

/-- A host that has the files of a folder prints in the plain dialect. -/
theorem Host.dialect_ofFolder (folder : Files.Folder) : (ofFolder folder).dialect = .plain := rfl

namespace Program

variable {environment : Option String} {s : Log.Session}

/-- The log options of a request that asks for nothing about the log. -/
theorem logOptions_of_command (command : CommandLine.Command) :
    logOptions { command := some command } = {} := rfl

/-- A request for a command runs it in a quiet session, if the log mode of the environment exists.
-/
theorem runRequest_of_mode (host : Host) (command : CommandLine.Command)
    {mode : Log.Mode} (hmode : Log.Mode.ofName? (Log.Options.modeName {} environment) = some mode) :
    ∃ s : Log.Session, s.IsQuiet ∧ s.streams = {} ∧
      runRequest host environment { command := some command } = runCommand host command s := by
  obtain ⟨s, hquiet, hstreams, hsetup⟩ := Log.Session.exists_setup_of_mode (s := {})
    (fun path => host.canAppend (.ofText path)) rfl (by decide) hmode
  refine ⟨s, hquiet, hstreams, ?_⟩
  simp only [runRequest, logOptions_of_command, hsetup]
  rfl

/-- Debug messages before other acts do nothing in a quiet session. -/
theorem playAll_debug_append (dialect : Console.Dialect) (h : s.IsQuiet) (messages : List String)
    (acts : List Act) :
    playAll dialect s (messages.map Act.debug ++ acts) = playAll dialect s acts := by
  induction messages with
  | nil => rfl
  | cons message rest ih =>
    rw [List.map_cons, List.cons_append, playAll, play, h.debug, ← ih]
    rfl

end Program

end ArgScan
