import ElixirLexer.Proofs.Snapshots

/-!
# Clients with several lexers

A client may hold any number of lexers on any texts, step them in any order, take snapshots of all
of them and go to any snapshot with any lexer, or go on from it in another text.  A snapshot then
puts modes on top of a text that has nothing to do with them, so this file asks for nothing but what
every lexer has: initial frames lie at the bottom only.  That is kept by every action, faults
included (`Client.IsSound.perform`).

It follows that the only fault a client can provoke is to go beyond the end of a text, and that such
a fault leaves everything as it was (`perform_withstands`).  Which tokens are read after a snapshot
has been carried to another text is not asked here.
-/

namespace ElixirLexer

/-! ## Clients -/

/-- The lexers and the snapshots that a client holds, oldest first. -/
structure Client where
  lexers : List Lexer := []
  snapshots : List Snapshot := []

/-- What a client can do.  Lexers and snapshots are named by their numbers; nothing happens if there
is none of that number. -/
inductive Action
  /-- Opens another lexer. -/
  | start (text : List Char) (opening : Opening)
  /-- Asks a lexer for the next token. -/
  | next (lexer : Nat)
  /-- Takes a snapshot of a lexer. -/
  | snapshot (lexer : Nat)
  /-- Takes a lexer to a snapshot. -/
  | restore (lexer snapshot : Nat)
  /-- Opens another lexer that goes on from a snapshot. -/
  | resume (snapshot : Nat) (text : List Char) (options : Options)

/-- A lexer must not be opened inside a second initial frame. -/
def Action.IsLegal : Action → Prop
  | start _ opening => opening ≠ .inside .initial
  | _ => True

namespace Client

/-- Holds one more lexer, if there is one. -/
def hold (client : Client) : Except Fault Lexer → Except Fault Unit × Client
  | .error fault => (.error fault, client)
  | .ok lexer => (.ok (), { client with lexers := client.lexers ++ [lexer] })

/-- Carries out an action.  Answers whether it could be done, and what the client holds in either
case. -/
def perform (client : Client) : Action → Except Fault Unit × Client
  | .start text opening => client.hold (opening.lexer text)
  | .next i =>
      match client.lexers[i]? with
      | none => (.ok (), client)
      | some lexer =>
          match lexer.step with
          | .error fault => (.error fault, client)
          | .ok step => (.ok (), { client with lexers := client.lexers.set i step.lexer })
  | .snapshot i =>
      match client.lexers[i]? with
      | none => (.ok (), client)
      | some lexer =>
          (.ok (), { client with snapshots := client.snapshots ++ [lexer.snapshot] })
  | .restore i id =>
      match client.lexers[i]?, client.snapshots[id]? with
      | some lexer, some target =>
          ((lexer.restore target).1,
            { client with lexers := client.lexers.set i (lexer.restore target).2 })
      | _, _ => (.ok (), client)
  | .resume id text options =>
      match client.snapshots[id]? with
      | none => (.ok (), client)
      | some target => client.hold (Lexer.resume text target options)

/-- What a client holds after some actions. -/
def after (actions : List Action) : Client :=
  actions.foldl (fun client action => (client.perform action).2) {}

/-- The snapshot that an action goes to and the text that it goes to it in. -/
def target? (client : Client) : Action → Option (Snapshot × List Char)
  | .restore i id =>
      match client.lexers[i]?, client.snapshots[id]? with
      | some lexer, some target => some (target, lexer.cursor.text)
      | _, _ => none
  | .resume id text _ => client.snapshots[id]?.map fun target => (target, text)
  | _ => none

end Client

/-! ## Going to a snapshot -/

/-- A snapshot whose frames are those of a stack. -/
def Snapshot.Rebuilds (snapshot : Snapshot) : Prop :=
  ∃ stack, snapshot.stack = .ok stack ∧ stack.frames = snapshot.frames ∧
    ∀ frame ∈ stack.above, frame.mode ≠ .initial

theorem Lexer.IsSound.rebuilds {lexer : Lexer} (h : lexer.IsSound) : lexer.snapshot.Rebuilds :=
  ⟨lexer.stack, h.stack_snapshot, rfl, h.ne_initial⟩

namespace Snapshot.Rebuilds

variable {snapshot : Snapshot}

/-- Going on from a snapshot fails only beyond the end of the text. -/
theorem resume_cases (h : snapshot.Rebuilds) (text : List Char) (options : Options) :
    text.length < snapshot.offset ∧
        Lexer.resume text snapshot options = .error (.pastEnd snapshot.offset text.length) ∨
      snapshot.offset ≤ text.length ∧
        ∃ lexer, Lexer.resume text snapshot options = .ok lexer ∧ lexer.IsSound := by
  obtain ⟨stack, hstack, -, hinitial⟩ := h
  unfold Lexer.resume Cursor.atOffset
  split
  · next hle =>
      rw [hstack]
      exact .inr ⟨hle, _, rfl, .of_unfinished hinitial rfl⟩
  · next hlt => exact .inl ⟨by omega, rfl⟩

/-- Taking a lexer to a snapshot fails only beyond the end of its text, and then the lexer is left
as it was. -/
theorem restore_cases (h : snapshot.Rebuilds) (lexer : Lexer) :
    lexer.cursor.text.length < snapshot.offset ∧ lexer.restore snapshot =
        (.error (.pastEnd snapshot.offset lexer.cursor.text.length), lexer) ∨
      snapshot.offset ≤ lexer.cursor.text.length ∧
        ∃ moved, lexer.restore snapshot = (.ok (), moved) ∧ moved.IsSound := by
  obtain ⟨stack, hstack, -, hinitial⟩ := h
  unfold Lexer.restore Cursor.atOffset
  split
  · next fault hfault =>
      split at hfault
      · simp at hfault
      · obtain rfl := Except.error.inj hfault
        exact .inl ⟨by omega, rfl⟩
  · next cursor hcursor =>
      split at hcursor
      · next hle =>
          rw [hstack]
          exact .inr ⟨hle, _, rfl, .of_unfinished hinitial rfl⟩
      · simp at hcursor

end Snapshot.Rebuilds

/-! ## Sound clients -/

/-- All that a client holds has its initial frames at the bottom only. -/
structure Client.IsSound (client : Client) : Prop where
  lexers : ∀ lexer ∈ client.lexers, lexer.IsSound
  snapshots : ∀ snapshot ∈ client.snapshots, snapshot.Rebuilds

namespace Client.IsSound

variable {client : Client} {action : Action}

theorem set (h : client.IsSound) {lexer : Lexer} (hlexer : lexer.IsSound) (i : Nat) :
    IsSound { client with lexers := client.lexers.set i lexer } where
  lexers other hmem := by
    rcases List.mem_or_eq_of_mem_set hmem with hmem | rfl
    · exact h.lexers other hmem
    · exact hlexer
  snapshots := h.snapshots

theorem hold (h : client.IsSound) {lexer : Lexer} (hlexer : lexer.IsSound) :
    ∃ later, client.hold (.ok lexer) = (.ok (), later) ∧ later.IsSound :=
  ⟨_, rfl, List.forall_mem_append.mpr ⟨h.lexers, List.forall_mem_singleton.mpr hlexer⟩, h.snapshots⟩

/-- **Everything that an action can do.**  It goes beyond the end of a text and changes nothing, or
else it succeeds and keeps the client sound. -/
theorem perform_cases (h : client.IsSound) (hlegal : action.IsLegal) :
    (∃ snapshot text, client.target? action = some (snapshot, text) ∧
        text.length < snapshot.offset ∧
        client.perform action = (.error (.pastEnd snapshot.offset text.length), client)) ∨
      (∀ snapshot text, client.target? action = some (snapshot, text) →
        snapshot.offset ≤ text.length) ∧
      ∃ later, client.perform action = (.ok (), later) ∧ later.IsSound := by
  cases action with
  | start text opening =>
      rw [Client.perform, opening.lexer_eq_start text hlegal]
      exact .inr ⟨by simp [target?], h.hold (opening.isNew_start text hlegal).isSound⟩
  | next i =>
      refine .inr ⟨by simp [target?], ?_⟩
      cases hlexer : client.lexers[i]? with
      | none => exact ⟨client, by simp [Client.perform, hlexer], h⟩
      | some lexer =>
          obtain ⟨next, hnext⟩ := lexer.exists_step
          have hsound := h.lexers lexer (List.mem_of_getElem? hlexer)
          exact ⟨_, by simp [Client.perform, hlexer, hnext], h.set (hsound.step hnext) i⟩
  | snapshot i =>
      refine .inr ⟨by simp [target?], ?_⟩
      cases hlexer : client.lexers[i]? with
      | none => exact ⟨client, by simp [Client.perform, hlexer], h⟩
      | some lexer =>
          have hsound := h.lexers lexer (List.mem_of_getElem? hlexer)
          refine ⟨{ client with snapshots := client.snapshots ++ [lexer.snapshot] },
            by simp [Client.perform, hlexer], h.lexers, ?_⟩
          exact List.forall_mem_append.mpr
            ⟨h.snapshots, List.forall_mem_singleton.mpr hsound.rebuilds⟩
  | restore i id =>
      cases hlexer : client.lexers[i]? with
      | none => exact .inr ⟨by simp [target?, hlexer], client, by simp [Client.perform, hlexer], h⟩
      | some lexer =>
          cases htarget : client.snapshots[id]? with
          | none =>
              exact .inr ⟨by simp [target?, hlexer, htarget], client,
                by simp [Client.perform, hlexer, htarget], h⟩
          | some target =>
              have hrebuilds := h.snapshots target (List.mem_of_getElem? htarget)
              -- A lexer that stays as it was is put back in its place.
              have hset : client.lexers.set i lexer = client.lexers := by
                obtain ⟨hlt, rfl⟩ := List.getElem?_eq_some_iff.mp hlexer
                exact List.set_getElem_self hlt
              rcases hrebuilds.restore_cases lexer with ⟨hlt, hfault⟩ | ⟨hle, moved, hmoved, hsound⟩
              · exact .inl ⟨target, lexer.cursor.text, by simp [target?, hlexer, htarget], hlt,
                  by simp [Client.perform, hlexer, htarget, hfault, hset]⟩
              · refine .inr ⟨?_, _, by simp [Client.perform, hlexer, htarget, hmoved],
                  h.set hsound i⟩
                simp only [target?, hlexer, htarget, Option.some.injEq, Prod.mk.injEq]
                rintro snapshot text ⟨rfl, rfl⟩
                exact hle
  | resume id text options =>
      cases htarget : client.snapshots[id]? with
      | none =>
          exact .inr ⟨by simp [target?, htarget], client, by simp [Client.perform, htarget], h⟩
      | some target =>
          have hrebuilds := h.snapshots target (List.mem_of_getElem? htarget)
          rcases hrebuilds.resume_cases text options with
            ⟨hlt, hfault⟩ | ⟨hle, lexer, hlexer, hsound⟩
          · exact .inl ⟨target, text, by simp [target?, htarget], hlt,
              by simp [Client.perform, htarget, hfault, Client.hold]⟩
          · refine .inr ⟨?_, by simpa [Client.perform, htarget, hlexer] using h.hold hsound⟩
            simp only [target?, htarget, Option.map_some, Option.some.injEq, Prod.mk.injEq]
            rintro snapshot other ⟨rfl, rfl⟩
            exact hle

/-- Every action keeps a client sound. -/
theorem perform (h : client.IsSound) (hlegal : action.IsLegal) :
    (client.perform action).2.IsSound := by
  rcases h.perform_cases hlegal with ⟨snapshot, text, -, -, hfault⟩ | ⟨-, later, hlater, hsound⟩
  · rwa [hfault]
  · rwa [hlater]

/-- Whatever a client does, it stays sound. -/
theorem after (actions : List Action) (hlegal : ∀ action ∈ actions, action.IsLegal) :
    (Client.after actions).IsSound := by
  have hfold : ∀ client : Client, client.IsSound →
      (actions.foldl (fun client action => (client.perform action).2) client).IsSound := by
    induction actions with
    | nil => exact fun _ h => h
    | cons action later ih =>
        obtain ⟨hfirst, hlater⟩ := List.forall_mem_cons.mp hlegal
        exact fun client h => ih hlater _ (h.perform hfirst)
  exact hfold {} ⟨by simp, by simp⟩

end Client.IsSound

/-! ## Steps -/

/-- A step makes a token within the text and leaves the initial frame alone. -/
theorem Lexer.exists_step_within (lexer : Lexer) : ∃ next, lexer.step = .ok next ∧
    next.token.span.stop ≤ lexer.cursor.text.length ∧
    next.lexer.cursor.text = lexer.cursor.text ∧
    next.lexer.stack.frames.head? = lexer.stack.frames.head? := by
  by_cases hrest : lexer.cursor.rest = []
  · refine ⟨_, step_of_rest_nil hrest, ?_, by rw [finish_cursor], ?_⟩
    · rw [finish_token]
      exact (offset_of_rest_nil hrest).le
    · unfold finish
      split <;> rfl
  · obtain ⟨next, hnext, hmoves⟩ := exists_moves hrest
    refine ⟨next, hnext, ?_, hmoves.text, ?_⟩
    · have hlength := next.lexer.cursor.offset_add_remaining
      rw [hmoves.text] at hlength
      rw [← hmoves.offset, Lexer.offset]
      omega
    · cases hmoves with
      | mk habove hgone hreading hfits happly =>
          have hbase := Stack.base_of_apply happly
          simp only [Stack.frames, List.head?_cons, hbase]

/-! ## What can go wrong -/

/-- How a client stands an action: it can only fail by going beyond the end of a text, and then it
changes nothing. -/
structure Client.Withstands (client : Client) (action : Action) : Prop where
  fault_iff : ∀ fault, (client.perform action).1 = .error fault ↔
    ∃ snapshot text, client.target? action = some (snapshot, text) ∧
      text.length < snapshot.offset ∧ fault = .pastEnd snapshot.offset text.length
  /-- All lexers keep their places, their stacks, their reports and whether they have finished. -/
  unchanged : ∀ fault, (client.perform action).1 = .error fault →
    (client.perform action).2 = client
  /-- A step succeeds, makes a token within the text and leaves the initial frame alone. -/
  step_within : ∀ lexer ∈ client.lexers, ∃ next, lexer.step = .ok next ∧
    next.token.span.stop ≤ lexer.cursor.text.length ∧
    next.lexer.cursor.text = lexer.cursor.text ∧
    next.lexer.stack.frames.head? = lexer.stack.frames.head?
  rebuilds : ∀ snapshot ∈ client.snapshots, snapshot.Rebuilds

theorem Client.IsSound.withstands {client : Client} {action : Action} (h : client.IsSound)
    (hlegal : action.IsLegal) : client.Withstands action := by
  have hsteps := fun lexer (_ : lexer ∈ client.lexers) => lexer.exists_step_within
  rcases h.perform_cases hlegal with ⟨snapshot, text, htarget, hlt, hperform⟩ |
    ⟨hle, later, hperform, -⟩
  · refine ⟨?_, by simp [hperform], hsteps, h.snapshots⟩
    intro fault
    rw [hperform, htarget]
    constructor
    · intro hfault
      exact ⟨snapshot, text, rfl, hlt, (Except.error.inj hfault).symm⟩
    · rintro ⟨_, _, hsame, -, rfl⟩
      obtain ⟨rfl, rfl⟩ := Prod.mk.inj (Option.some.inj hsame)
      rfl
  · refine ⟨?_, by simp [hperform], hsteps, h.snapshots⟩
    intro fault
    rw [hperform]
    constructor
    · simp
    · rintro ⟨snapshot, text, htarget, hlt, -⟩
      exact absurd (hle snapshot text htarget) (by omega)

/-- **No action of a client breaks a lexer.**  Whatever it has done before, on whatever texts, an
action fails exactly if it goes to a snapshot beyond the end of the text it goes to it in, and then
nothing changes.  Every lexer that is held can be stepped, and every snapshot gives a stack. -/
theorem perform_withstands (actions : List Action) (action : Action)
    (hactions : ∀ earlier ∈ actions, earlier.IsLegal) (haction : action.IsLegal) :
    (Client.after actions).Withstands action :=
  (Client.IsSound.after actions hactions).withstands haction

/-- A snapshot inside an open string is carried from a long text to a short one, to which a lexer
inside a heredoc cannot be taken back either. -/
theorem perform_withstands_pastEnd :
    let actions : List Action := [.start ['"', 'a', 'b'] (.plain {}), .next 0, .next 0, .snapshot 0,
      .start ['x'] (.inside (.heredocBody (Heredoc.opened .string '"' true)))]
    (∀ earlier ∈ actions, earlier.IsLegal) ∧ (Action.restore 1 0).IsLegal ∧
      (Client.after actions).Withstands (.restore 1 0) ∧
      ((Client.after actions).perform (.restore 1 0)).1 = .error (.pastEnd 3 1) := by
  intro actions
  have hactions : ∀ earlier ∈ actions, earlier.IsLegal := by
    simp [actions, Action.IsLegal]
  exact ⟨hactions, trivial, perform_withstands actions (.restore 1 0) hactions trivial,
    by decide +kernel⟩

end ElixirLexer
