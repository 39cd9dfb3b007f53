import ElixirLexer.Fault
import ElixirLexer.Mode.Basic

/-!
# The stack of modes

Entering a construct pushes a frame and leaving it pops the frame.  Beneath all others lies an
initial frame that can be neither popped nor changed; it is part of the type, so a stack is never
empty.  The frames above it are listed from the top.

Pushing does not look at the mode, so initial frames above the first can be pushed by hand; a list
of frames that holds one is refused when a stack is rebuilt from it.
-/

namespace ElixirLexer

/-- A mode and the offset at which its construct begins. -/
structure Frame where
  mode : Mode
  openedAt : Nat
  deriving DecidableEq

/-- What a match does to the stack. -/
inductive Transition
  | stay
  | push (mode : Mode)
  | pop
  /-- The top frame changes its mode and keeps its offset. -/
  | replace (mode : Mode)
  deriving DecidableEq

/-- The frames above the initial one, top first, and the offset of the initial one. -/
structure Stack where
  above : List Frame := []
  base : Nat := 0
  deriving DecidableEq

namespace Stack

/-- The stack that holds only the initial frame. -/
def initial : Stack := {}

/-- The frame that is in effect. -/
def top (stack : Stack) : Frame :=
  stack.above.headD ⟨.initial, stack.base⟩

/-- All frames from the bottom to the top. -/
def frames (stack : Stack) : List Frame :=
  ⟨.initial, stack.base⟩ :: stack.above.reverse

/-- Number of frames above the initial one. -/
def depth (stack : Stack) : Nat :=
  stack.above.length

/-- Whether only the initial frame is left. -/
def isInitial (stack : Stack) : Bool :=
  stack.above.isEmpty

/-- Rebuilds a stack from its frames.  Exactly the first of them may be an initial frame. -/
def ofFrames : List Frame → Except Fault Stack
  | [] => .error .missingInitial
  | bottom :: higher =>
      if bottom.mode ≠ .initial then .error .missingInitial
      else if higher.any (fun frame => frame.mode == .initial) then .error .buriedInitial
      else .ok ⟨higher.reverse, bottom.openedAt⟩

/-- Puts a frame on top. -/
def push (stack : Stack) (frame : Frame) : Stack :=
  { stack with above := frame :: stack.above }

/-- Takes the top frame off; the initial frame stays. -/
def pop (stack : Stack) : Except Fault (Frame × Stack) :=
  match stack.above with
  | [] => .error .popInitial
  | frame :: below => .ok (frame, { stack with above := below })

/-- Gives the top frame another mode; the initial frame keeps its own. -/
def replace (stack : Stack) (mode : Mode) : Except Fault Stack :=
  match stack.above with
  | [] => .error .replaceInitial
  | frame :: below => .ok { stack with above := { frame with mode } :: below }

/-- Carries out a transition; a pushed frame begins at `offset`. -/
def apply (stack : Stack) (transition : Transition) (offset : Nat) : Except Fault Stack :=
  match transition with
  | .stay => .ok stack
  | .push mode => .ok (stack.push ⟨mode, offset⟩)
  | .pop => stack.pop.map Prod.snd
  | .replace mode => stack.replace mode

/-! ## Views -/

@[simp] theorem frames_push (stack : Stack) (frame : Frame) :
    (stack.push frame).frames = stack.frames ++ [frame] := by
  simp [frames, push]

@[simp] theorem top_push (stack : Stack) (frame : Frame) : (stack.push frame).top = frame := by
  simp [top, push]

@[simp] theorem depth_push (stack : Stack) (frame : Frame) :
    (stack.push frame).depth = stack.depth + 1 := by
  simp [depth, push]

theorem length_frames (stack : Stack) : stack.frames.length = stack.depth + 1 := by
  simp [frames, depth]

theorem pop_push (stack : Stack) (frame : Frame) : (stack.push frame).pop = .ok (frame, stack) :=
  rfl

/-- A stack without buried initial frames is rebuilt from its own frames. -/
theorem ofFrames_frames {stack : Stack} (h : ∀ frame ∈ stack.above, frame.mode ≠ .initial) :
    ofFrames stack.frames = .ok stack := by
  have hany : stack.above.reverse.any (fun frame => frame.mode == .initial) = false := by
    simpa using h
  simp [ofFrames, frames, hany]

end Stack

end ElixirLexer
