import ElixirLexer.Proofs.Distinct
import ElixirLexer.Proofs.Restart

/-!
# Reports survive going back

A client may take a lexer back to snapshots of the same session, and forward again, in any order.
What is reported at any moment is part of what an uninterrupted run reports, in the same order, and
nothing is reported twice.  As long as no snapshot that is asked for lies ahead, the reports are
those of a run without interruptions to the same place, and all of them at the end
(`performAll_diagnostics`).

The reports that are `due` at a place are found by their offsets alone.  Reading on adds to what is
reported what it adds to what is due, and going back drops from both what lies behind the snapshot.
Only going forward leaves a gap.
-/

namespace ElixirLexer

namespace Lexer

/-! ## What is due -/

/-- The reports of what a lexer has passed, out of `all` that there are. -/
def due (all : List Diagnostic) (lexer : Lexer) : List Diagnostic :=
  if lexer.finished then all else all.filter fun diagnostic => diagnostic.offset < lexer.offset

theorem due_sublist (all : List Diagnostic) (lexer : Lexer) : (due all lexer).Sublist all := by
  unfold due
  split
  · exact .refl _
  · exact List.filter_sublist

/-- What is due here and lies in front of an earlier place is due there. -/
theorem filter_due {all : List Diagnostic} {lexer : Lexer} {offset : Nat}
    (h : offset ≤ lexer.offset) :
    (due all lexer).filter (fun diagnostic => diagnostic.offset < offset) =
      all.filter fun diagnostic => diagnostic.offset < offset := by
  unfold due
  split
  · rfl
  · rw [List.filter_filter]
    refine List.filter_congr ?_
    intro diagnostic _
    by_cases hlt : diagnostic.offset < offset
    · simp [hlt, Nat.lt_of_lt_of_le hlt h]
    · simp [hlt]

/-- Before the end has been reported, the reports of the tokens behind a lexer are due. -/
theorem StandsBetween.due_eq {start last lexer : Lexer} {front later : List Token}
    (h : StandsBetween start front later last lexer) (hnew : start.IsNew)
    (hfinished : lexer.finished = false) :
    due last.finish.lexer.diagnostics lexer =
      reports start.cursor.text start.options front := by
  obtain ⟨place, hfront, hlater, hplace⟩ := h.exists_place
  have hcut := (hfront.diagnostics_cut hlater hnew.diagnostics_eq hnew.finished_eq).1
  rw [due, hfinished, hplace.offset_eq]
  rw [hfront.diagnostics, hnew.diagnostics_eq, List.nil_append] at hcut
  exact hcut

/-- When the end has been reported, all reports are due. -/
theorem due_finish (all : List Diagnostic) (lexer : Lexer) : due all lexer.finish.lexer = all := by
  rw [due, finish_finished, if_pos rfl]

/-! ## Places of a session -/

/-- A lexer stands somewhere between `start` and `last`, whatever it has reported. -/
def Within (start last lexer : Lexer) : Prop :=
  ∃ front later, StandsBetween start front later last lexer

namespace Within

variable {start last lexer target : Lexer}

/-- A step leads to the next place, and what it reports becomes due there. -/
theorem step {next : Step} (h : Within start last lexer) (hnew : start.IsNew)
    (hlast : last.cursor.rest = []) (hstep : lexer.step = .ok next) :
    Within start last next.lexer ∧ ∃ found, next.lexer.diagnostics = lexer.diagnostics ++ found ∧
      due last.finish.lexer.diagnostics next.lexer =
        due last.finish.lexer.diagnostics lexer ++ found := by
  obtain ⟨front, later, hstands⟩ := h
  obtain ⟨htoken, hnext⟩ := hstands.step hnew.isSound hlast hstep
  refine ⟨⟨_, _, hnext⟩, ?_⟩
  cases later with
  | nil =>
      -- All that is not due yet are the frames that are left, and these are reported now.
      have hsame := hstands.samePlace_last
      have hrest : lexer.cursor.rest = [] := by rw [hsame.cursor_eq, hlast]
      obtain rfl := Except.ok.inj ((step_of_rest_nil hrest).symm.trans hstep)
      cases hfinished : lexer.finished with
      | true => exact ⟨[], by simp [finish, hfinished], by simp [finish, hfinished]⟩
      | false =>
          refine ⟨_, finish_diagnostics hfinished, ?_⟩
          have hreads := hstands.reads
          rw [List.append_nil] at hreads
          rw [due_finish, hstands.due_eq hnew hfinished, hsame.withoutModifiers_eq,
            hsame.offset_eq, hreads.diagnostics_finish hnew.finished_eq, hnew.diagnostics_eq,
            List.nil_append, reportsAhead, hreads.text, hreads.options]
  | cons token later =>
      -- The end is still ahead, so only the token that is read can become due.
      have hmoves := moves_of_step hstands.rest_ne_nil hstep
      have hfinished := hstands.sound.finished_eq_false hstands.rest_ne_nil
      obtain rfl : next.token = token := htoken
      refine ⟨_, hmoves.diagnostics, ?_⟩
      rw [hnext.due_eq hnew (hmoves.finished.trans hfinished), hstands.due_eq hnew hfinished,
        reports_append, hstands.text, hstands.options]
      rfl

/-- A lexer can be taken to every other place of the session.  What lies in front of it stays
reported, and is due. -/
theorem exists_restore (h : Within start last lexer) (htarget : Within start last target) :
    ∃ moved, lexer.restore target.snapshot = (.ok (), moved) ∧ Within start last moved ∧
      moved.diagnostics =
        lexer.diagnostics.filter (fun diagnostic => diagnostic.offset < target.offset) ∧
      ∀ all, due all moved = all.filter fun diagnostic => diagnostic.offset < target.offset := by
  obtain ⟨_, _, hstands⟩ := h
  obtain ⟨front, later, htarget⟩ := htarget
  obtain ⟨moved, hrestore, hmoved, hfinished, hoffset, hreports⟩ :=
    hstands.exists_restore htarget
  refine ⟨moved, hrestore, ⟨front, later, hmoved⟩, hreports, fun all => ?_⟩
  rw [due, hfinished, hoffset]
  rfl

/-- Some number of steps leads from the start to the same place. -/
theorem exists_pull (h : Within start last lexer) (hnew : start.IsNew) :
    ∃ count run, start.pull count = .ok run ∧ run.lexer.offset = lexer.offset ∧
      run.lexer.finished = lexer.finished := by
  obtain ⟨front, later, ⟨place, hfront, hlater, hplace⟩, hsound⟩ := h
  cases hfinished : lexer.finished with
  | false =>
      obtain ⟨events, hpull⟩ := hfront.exists_pull
      exact ⟨front.length, _, hpull, hplace.offset_eq.symm,
        hfront.finished.trans hnew.finished_eq⟩
  | true =>
      have hrest := (hsound.settled hfinished).1
      rw [hplace.cursor_eq] at hrest
      obtain ⟨events, hpull⟩ := hfront.exists_pull_mark hrest
      refine ⟨front.length + 1, _, hpull, ?_, finish_finished place⟩
      rw [Lexer.offset, finish_cursor, ← Lexer.offset, hplace.offset_eq]

end Within

/-! ## Sessions without gaps -/

/-- A lexer within a run has reported exactly what is due. -/
structure Current (start last lexer : Lexer) : Prop where
  within : Within start last lexer
  diagnostics_eq : lexer.diagnostics = due last.finish.lexer.diagnostics lexer

namespace Current

variable {start last lexer : Lexer}

theorem start_self {tokens : List Token} (h : start.IsNew) (hreads : Reads start tokens last) :
    Current start last start := by
  have hstands := StandsBetween.start_self h.isSound hreads
  refine ⟨⟨_, _, hstands⟩, ?_⟩
  rw [hstands.due_eq h h.finished_eq, h.diagnostics_eq, reports_nil]

theorem step {next : Step} (h : Current start last lexer) (hnew : start.IsNew)
    (hlast : last.cursor.rest = []) (hstep : lexer.step = .ok next) :
    Current start last next.lexer := by
  obtain ⟨hwithin, found, hreports, hdue⟩ := h.within.step hnew hlast hstep
  exact ⟨hwithin, by rw [hreports, hdue, h.diagnostics_eq]⟩

theorem pull {count : Nat} {run : Run} (h : Current start last lexer) (hnew : start.IsNew)
    (hlast : last.cursor.rest = []) (hpull : lexer.pull count = .ok run) :
    Current start last run.lexer :=
  pull_invariant (fun _ _ hcurrent hstep => hcurrent.step hnew hlast hstep) h hpull

/-- Draining reports all that there is. -/
theorem exists_drain (h : Current start last lexer) (hnew : start.IsNew)
    (hlast : last.cursor.rest = []) : ∃ run, lexer.drain = .ok run ∧
      run.lexer.diagnostics = last.finish.lexer.diagnostics := by
  obtain ⟨tokens, events, final, hreads, hfinal, hdrain⟩ := exists_reads_of_drain lexer
  obtain ⟨_, hpull⟩ := hreads.exists_pull_mark hfinal
  have hdiagnostics := (h.pull hnew hlast hpull).diagnostics_eq
  rw [due_finish] at hdiagnostics
  exact ⟨_, hdrain, hdiagnostics⟩

end Current

/-! ## Commands -/

/-- The commands that read on, take snapshots and go to them. -/
def Command.isLocal : Command → Bool
  | .next | .snapshot | .restore _ => true
  | _ => false

namespace Session

/-- Whether a command asks for no snapshot that lies ahead. -/
def goesBack (session : Session) : Command → Bool
  | .restore id => session.snapshots[id]?.all fun target => target.offset ≤ session.lexer.offset
  | _ => true

/-- Whether no command, when its turn comes, asks for a snapshot that lies ahead. -/
def onlyRewinds : Session → List Command → Bool
  | _, [] => true
  | session, command :: later =>
      session.goesBack command && (session.perform command).2.onlyRewinds later

/-- The lexer stands within a run and so did that of each snapshot, and nothing is reported that is
not due. -/
structure Kept (start last : Lexer) (session : Session) : Prop where
  within : Within start last session.lexer
  snapshots : ∀ taken ∈ session.snapshots, ∃ lexer, Within start last lexer ∧
    lexer.snapshot = taken
  sublist : session.lexer.diagnostics.Sublist
    (due last.finish.lexer.diagnostics session.lexer)

theorem perform_next {session : Session} {step : Step} (h : session.lexer.step = .ok step) :
    session.perform .next = (.token step.token, { session with lexer := step.lexer }) := by
  simp [perform, pull_one h, ofRun, single]

theorem perform_restore {session : Session} {id : Nat} {target : Snapshot} {moved : Lexer}
    (hid : session.snapshots[id]? = some target)
    (h : session.lexer.restore target = (.ok (), moved)) :
    session.perform (.restore id) = (.done, { session with lexer := moved }) := by
  simp [perform, hid, h]

namespace Kept

variable {start last : Lexer} {session : Session} {command : Command}

/-- Every command is carried out, and leaves no gap unless it goes forward. -/
theorem perform (h : Kept start last session) (hnew : start.IsNew)
    (hlast : last.cursor.rest = []) (hlocal : command.isLocal) :
    (∀ fault, (session.perform command).1 ≠ .fault fault) ∧
      Kept start last (session.perform command).2 ∧
      (session.goesBack command → Current start last session.lexer →
        Current start last (session.perform command).2.lexer) := by
  cases command with
  | next =>
      obtain ⟨step, hstep⟩ := exists_step session.lexer
      obtain ⟨hwithin, found, hreports, hdue⟩ := h.within.step hnew hlast hstep
      rw [perform_next hstep]
      refine ⟨by simp, ⟨hwithin, h.snapshots, ?_⟩, fun _ hcurrent => ?_⟩
      · rw [hreports, hdue]
        exact h.sublist.append_right found
      · exact hcurrent.step hnew hlast hstep
  | snapshot =>
      refine ⟨by simp [Session.perform], ⟨h.within, ?_, h.sublist⟩, fun _ hcurrent => hcurrent⟩
      refine List.forall_mem_append.mpr ⟨h.snapshots, List.forall_mem_singleton.mpr ?_⟩
      exact ⟨session.lexer, h.within, rfl⟩
  | restore id =>
      cases hid : session.snapshots[id]? with
      | none =>
          simp only [Session.perform, hid]
          exact ⟨by simp, h, fun _ hcurrent => hcurrent⟩
      | some taken =>
          obtain ⟨target, htarget, rfl⟩ := h.snapshots taken (List.mem_of_getElem? hid)
          obtain ⟨moved, hrestore, hwithin, hreports, hdue⟩ := h.within.exists_restore htarget
          rw [perform_restore hid hrestore]
          refine ⟨by simp, ⟨hwithin, h.snapshots, ?_⟩, fun hback hcurrent => ⟨hwithin, ?_⟩⟩
          · rw [hreports, hdue]
            exact (h.sublist.trans (due_sublist _ _)).filter _
          · have hle : target.offset ≤ session.lexer.offset := by
              simpa [goesBack, hid, snapshot] using hback
            rw [hreports, hdue, hcurrent.diagnostics_eq]
            exact filter_due hle
  | _ => simp [Command.isLocal] at hlocal

/-- What every command keeps is kept at every moment. -/
theorem performAll {commands : List Command} (h : Kept start last session) (hnew : start.IsNew)
    (hlast : last.cursor.rest = []) (hlocal : ∀ command ∈ commands, command.isLocal) :
    ∀ entry ∈ session.performAll commands, (∀ fault, entry.1 ≠ .fault fault) ∧
      Kept start last entry.2 ∧
      (session.onlyRewinds commands → Current start last session.lexer →
        Current start last entry.2.lexer) := by
  induction commands generalizing session with
  | nil => simp [Session.performAll]
  | cons command later ih =>
      obtain ⟨hfirst, hlater⟩ := List.forall_mem_cons.mp hlocal
      obtain ⟨hfault, hkept, hcurrent⟩ := h.perform hnew hlast hfirst
      simp only [onlyRewinds, Bool.and_eq_true]
      refine List.forall_mem_cons.mpr ⟨⟨hfault, hkept, fun hrewinds => hcurrent hrewinds.1⟩, ?_⟩
      intro entry hmem
      obtain ⟨hentry, hafter, hrest⟩ := ih hkept hlater entry hmem
      refine ⟨hentry, hafter, fun hrewinds hbefore => ?_⟩
      exact hrest hrewinds.2 (hcurrent hrewinds.1 hbefore)

end Kept

end Session

/-! ## Whole sessions -/

/-- What a lexer has reported is what it would have reported if it had only read on from `start`.
The run to the end without interruptions is `whole`. -/
structure Undisturbed (start : Lexer) (whole : Run) (lexer : Lexer) : Prop where
  exists_pull : ∃ count run, start.pull count = .ok run ∧ run.lexer.offset = lexer.offset ∧
    run.lexer.finished = lexer.finished
  /-- Whatever number of steps leads to this place, the same has been reported. -/
  diagnostics_eq : ∀ count run, start.pull count = .ok run → run.lexer.offset = lexer.offset →
    run.lexer.finished = lexer.finished → lexer.diagnostics = run.lexer.diagnostics
  drain_eq : ∃ run, lexer.drain = .ok run ∧
    run.lexer.diagnostics = whole.lexer.diagnostics

theorem Current.undisturbed {start last lexer : Lexer} {whole : Run}
    (h : Current start last lexer) (hnew : start.IsNew) (hstart : Current start last start)
    (hlast : last.cursor.rest = []) (hwhole : whole.lexer = last.finish.lexer) :
    Undisturbed start whole lexer where
  exists_pull := h.within.exists_pull hnew
  diagnostics_eq := by
    intro count run hpull hoffset hfinished
    -- What is due depends on nothing but the offset and whether the end has been reported.
    have hrun := (hstart.pull hnew hlast hpull).diagnostics_eq
    rw [due, hfinished, hoffset] at hrun
    rw [hrun, h.diagnostics_eq, due]
  drain_eq := by
    rw [hwhole]
    exact h.exists_drain hnew hlast

/-- **Reports survive going back.**  Whatever a client of one lexer does, every command is carried
out, and what has been reported at any moment is part of what the uninterrupted run reports, without
repetition.  If the lexer is never taken forward to a snapshot, it is what a run of single steps to
that place has reported, and a session that is drained ends with the reports of the uninterrupted
run. -/
theorem performAll_diagnostics (text : List Char) (opening : Opening)
    (h : opening ≠ .inside .initial) :
    ∃ start whole, opening.lexer text = .ok start ∧ start.drain = .ok whole ∧
      ∀ commands : List Command, (∀ command ∈ commands, command.isLocal) →
        ∀ entry ∈ Session.performAll ⟨start, []⟩ commands,
          (∀ fault, entry.1 ≠ .fault fault) ∧
          entry.2.lexer.diagnostics.Sublist whole.lexer.diagnostics ∧
          entry.2.lexer.diagnostics.Nodup ∧
          (Session.onlyRewinds ⟨start, []⟩ commands → Undisturbed start whole entry.2.lexer) := by
  have hnew := opening.isNew_start text h
  obtain ⟨tokens, events, last, hreads, hlast, hwhole⟩ :=
    exists_reads_of_drain (opening.start text)
  have hstart := Current.start_self hnew hreads
  have hnodup := hreads.nodup_diagnostics_finish hnew (opening.staggered_start text)
  refine ⟨opening.start text, _, opening.lexer_eq_start text h, hwhole, ?_⟩
  intro commands hlocal entry hmem
  have hkept : Session.Kept (opening.start text) last ⟨opening.start text, []⟩ :=
    ⟨hstart.within, by simp, by simp [← hstart.diagnostics_eq]⟩
  obtain ⟨hfault, hafter, hcurrent⟩ := hkept.performAll hnew hlast hlocal entry hmem
  have hsublist := hafter.sublist.trans (due_sublist _ _)
  refine ⟨hfault, hsublist, hnodup.sublist hsublist, fun hrewinds => ?_⟩
  exact (hcurrent hrewinds hstart).undisturbed hnew hstart hlast rfl

/-- A lexer that was opened inside an interpolation is taken back from behind the end mark to the
start, in front of a bad character, and once more from the end: both times both problems are found
again. -/
theorem performAll_diagnostics_of_restores :
    Opening.inside (.interpolation 0) ≠ .inside .initial ∧
      ∃ start whole, (Opening.inside (.interpolation 0)).lexer ['$'] = .ok start ∧
        start.drain = .ok whole ∧
        ∀ entry ∈ Session.performAll ⟨start, []⟩
            [.snapshot, .next, .snapshot, .next, .restore 0, .next, .next, .restore 1, .next],
          entry.2.lexer.diagnostics.Nodup ∧ Undisturbed start whole entry.2.lexer := by
  have hmode : Opening.inside (.interpolation 0) ≠ .inside .initial := by simp
  obtain ⟨start, whole, hlexer, hwhole, hall⟩ := performAll_diagnostics ['$'] _ hmode
  refine ⟨hmode, start, whole, hlexer, hwhole, ?_⟩
  intro entry hmem
  obtain ⟨-, -, hnodup, hundisturbed⟩ := hall _ (by decide) entry hmem
  refine ⟨hnodup, hundisturbed ?_⟩
  obtain rfl := Except.ok.inj hlexer
  decide

end Lexer

end ElixirLexer
