import TlsTranscript.Proofs.Transcript.Destination

/-!
# Calls that succeed

A call with a name of its own that answers a path has opened the file there. No call
succeeds in a directory without a name: the settings are then asked for a directory, and
if they have none either, it cannot be made.
-/

namespace TlsTranscript

namespace Transcript

/-- The path of a call is that of its name in its directory. -/
theorem Call.path?_eq_some_iff {call : Call} {directory path : GivenPath}
    (hd : call.directory.pathOperand = .ok directory) :
    call.path? = some path ↔ joinPath directory call.name = .ok path := by
  have hoption : call.path? = (joinPath directory call.name).toOption := by
    rw [path?, hd]
  rw [hoption]
  cases joinPath directory call.name <;> simp [Except.toOption]

/-- A call with a directory and a name of its own that succeeds has opened its file. -/
theorem Call.opens_of_action {call : Call} {w after : World} {path : GivenPath}
    (hd : call.directory.isSomething = true) (hn : call.name.isSomething = true)
    (h : call.action.runIn w = (.ok path, after)) : call.Opens w.files := by
  unfold action appendRow at h
  rw [Action.runIn_bind_of_ok (runIn_directoryFor hd w),
    Action.runIn_bind_of_ok (runIn_nameFor hn w)] at h
  cases hdirectory : call.directory.pathOperand with
  | error failure =>
    rw [hdirectory, Action.runIn_bind_of_error (Action.runIn_ofResult _ w)] at h
    cases h
  | ok directory =>
    rw [hdirectory, Action.runIn_bind_of_ok (Action.runIn_ofResult _ w), Action.runIn_bind,
      runIn_makeDirectories] at h
    cases hmade : (w.files.provideDirectories true directory).2 with
    | some failure =>
      rw [hmade] at h
      cases h
    | none =>
      rw [hmade] at h
      dsimp only [Option.elim_none] at h
      cases hjoin : joinPath directory call.name with
      | error failure =>
        rw [hjoin, Action.runIn_bind_of_error (Action.runIn_ofResult _ _)] at h
        cases h
      | ok joined =>
        rw [hjoin, Action.runIn_bind_of_ok (Action.runIn_ofResult _ _)] at h
        obtain ⟨-, found, hfound⟩ := open?_of_appendTo h
        exact ⟨hd, hn, directory, joined, found, hdirectory, hjoin, hmade, hfound⟩

/-- A directory without a name cannot be made. -/
theorem runIn_makeDirectories_empty (w : World) :
    (makeDirectories true (.text "")).runIn w =
      (.error (FileFailure.inCall ⟨.missing, .text ""⟩ "mkdir"), w) := by
  rw [runIn_makeDirectories, FileTree.provideDirectories_empty]
  rfl

/-- A call without a directory fails where the settings name none either. -/
theorem append_fails_of_empty {lines name : Datum} {w after : World} {settings : Settings}
    (hload : Settings.load.runIn w = (.ok settings, after))
    (hempty : settings.transcriptDir = "") (hn : name.isSomething = true) :
    ∃ failure last, (append lines name (.text "")).runIn w = (.error failure, last) := by
  have hdirectory : (directoryFor (.text "")).runIn w = (.ok (.text ""), after) := by
    have hnone : ¬(Datum.text "").isSomething = true := by decide
    unfold directoryFor
    rw [if_neg hnone, Action.runIn_bind_of_ok hload, hempty]
    rfl
  have hpath : (Action.ofResult (Datum.text "").pathOperand).runIn after =
      (.ok (.text ""), after) := rfl
  refine ⟨FileFailure.inCall ⟨.missing, .text ""⟩ "mkdir", after, ?_⟩
  unfold append appendRow
  rw [Action.runIn_bind_of_ok hdirectory, Action.runIn_bind_of_ok (runIn_nameFor hn after),
    Action.runIn_bind_of_ok hpath]
  exact Action.runIn_bind_of_error (runIn_makeDirectories_empty after)

end Transcript

end TlsTranscript
