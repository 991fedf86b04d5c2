import NitroSense.Text

/-!
# The socket of the daemon

`make_socket` of `control/socket.c`, with every state between its system calls:
whoever may connect to the socket may control the fans, so nobody is let in
before the permissions are those of the service.
-/

namespace NitroSense

/-- The permissions and the group of a socket in the file system. -/
structure SocketFile where
  mode : Nat
  group : UInt32
  deriving DecidableEq, Repr

/-- What is at the path of the socket, and the socket of the daemon. -/
structure Listener where
  file : Option SocketFile
  held : Bool := false
  listening : Bool := false
  deriving DecidableEq, Repr

/-- What the system calls of `make_socket` return; `created` is how a bound socket comes out, and
`control` the group of the service. -/
structure SocketCalls where
  runDir : Bool
  unlink : Bool
  socket : Bool
  bind : Bool
  created : SocketFile
  control : Option UInt32
  stat : Bool
  chown : Bool
  chmod : Bool
  listen : Bool
  unlinkAgain : Bool

def controlSocketMode : Nat := 0o660

def Listener.unlink (listener : Listener) (ok : Bool) : Listener :=
  { listener with file := if ok then none else listener.file }

/-- `close` and `unlink` behind a failure. -/
def Listener.giveUp (listener : Listener) (ok : Bool) : List Listener :=
  let closed := { listener with held := false, listening := false }
  [closed, closed.unlink ok]

def assignSocketGroup (calls : SocketCalls) (file : SocketFile) : SocketFile :=
  match calls.control with
  | none => file
  | some group =>
      if calls.stat = false ∨ file.group = group then file
      else if calls.chown then { file with group := group }
      else file

/-- `finish_control_socket`, with the states it goes through. -/
def finishControlSocket (calls : SocketCalls) (listener : Listener) (file : SocketFile) :
    List Listener × Bool :=
  if calls.chmod = false then (listener.giveUp calls.unlinkAgain, false)
  else
    let guarded := { listener with file := some { file with mode := controlSocketMode } }
    if calls.listen = false then (guarded :: guarded.giveUp calls.unlinkAgain, false)
    else ([guarded, { guarded with listening := true }], true)

/-- `make_socket`, with the states it goes through and whether it returns a socket. -/
def makeSocket (calls : SocketCalls) (before : Option SocketFile) : List Listener × Bool :=
  if calls.runDir = false then ([⟨before, false, false⟩], false)
  else
    let free := Listener.unlink ⟨before, false, false⟩ calls.unlink
    if calls.socket = false then ([free], false)
    else
      let opened := { free with held := true }
      -- a path that is still taken cannot be bound
      if calls.bind = false ∨ opened.file.isSome then
        (free :: opened :: opened.giveUp calls.unlinkAgain, false)
      else
        let bound := { opened with file := some calls.created }
        let file := assignSocketGroup calls calls.created
        let assigned := { bound with file := some file }
        let finished := finishControlSocket calls assigned file
        (free :: opened :: bound :: assigned :: finished.1, finished.2)

/-- Clients are let in by a socket with the permissions of the service. -/
def Listener.Guarded (listener : Listener) : Prop :=
  listener.listening = true →
    listener.held = true ∧ listener.file.map SocketFile.mode = some controlSocketMode

section Listening

variable {calls : SocketCalls}

theorem Listener.giveUp_guarded (listener : Listener) (ok : Bool) :
    ∀ state ∈ listener.giveUp ok, state.Guarded ∧ state.held = false := by
  intro state member
  rcases List.mem_cons.mp member with rfl | later
  · exact ⟨nofun, rfl⟩
  · rw [List.mem_singleton.mp later]
    exact ⟨nofun, rfl⟩

theorem finishControlSocket_guarded {listener : Listener} (deaf : listener.listening = false)
    (held : listener.held = true) (file : SocketFile) :
    ∀ state ∈ (finishControlSocket calls listener file).1, state.Guarded := by
  have guarded : Listener.Guarded
      { listener with file := some { file with mode := controlSocketMode } } := by
    intro listening
    exact absurd (deaf.symm.trans listening) Bool.false_ne_true
  unfold finishControlSocket
  dsimp only
  intro state member
  split at member
  · exact (listener.giveUp_guarded _ state member).1
  · split at member
    · rcases List.mem_cons.mp member with rfl | later
      · exact guarded
      · exact (Listener.giveUp_guarded _ _ state later).1
    · rcases List.mem_cons.mp member with rfl | later
      · exact guarded
      · rw [List.mem_singleton.mp later]
        exact fun _ => ⟨held, rfl⟩

/-- A state in front of others is not the last one. -/
theorem last_behind {state : Listener} {states : List Listener} {field : Listener → Bool}
    {value : Bool} (last : states.getLast?.map field = some value) :
    (state :: states).getLast?.map field = some value := by
  cases states with
  | nil => cases last
  | cons next states => rw [List.getLast?_cons_cons, last]

theorem finishControlSocket_last (listener : Listener) (held : listener.held = true)
    (file : SocketFile) :
    let finished := finishControlSocket calls listener file
    finished.1.getLast?.map Listener.listening = some finished.2 ∧
      finished.1.getLast?.map Listener.held = some finished.2 := by
  unfold finishControlSocket Listener.giveUp Listener.unlink
  dsimp only
  split
  · exact ⟨rfl, rfl⟩
  · split
    · exact ⟨rfl, rfl⟩
    · exact ⟨rfl, congrArg some held⟩

end Listening

/-- In no state between the system calls clients are let in by other permissions, and in the end
the socket is there and lets them in, or it is closed. -/
theorem makeSocket_states (calls : SocketCalls) (before : Option SocketFile) :
    (∀ state ∈ (makeSocket calls before).1, state.Guarded) ∧
      (makeSocket calls before).1.getLast?.map Listener.listening =
          some (makeSocket calls before).2 ∧
      (makeSocket calls before).1.getLast?.map Listener.held =
          some (makeSocket calls before).2 := by
  unfold makeSocket
  dsimp only
  split
  · exact ⟨List.forall_mem_singleton.mpr nofun, rfl, rfl⟩
  · split
    · exact ⟨List.forall_mem_singleton.mpr nofun, rfl, rfl⟩
    · split
      · refine ⟨?_, rfl, rfl⟩
        rw [List.forall_mem_cons, List.forall_mem_cons]
        exact ⟨nofun, nofun, fun state member => (Listener.giveUp_guarded _ _ state member).1⟩
      · rw [List.forall_mem_cons, List.forall_mem_cons, List.forall_mem_cons, List.forall_mem_cons]
        refine ⟨⟨nofun, nofun, nofun, nofun, finishControlSocket_guarded rfl rfl _⟩, ?_⟩
        obtain ⟨listening, held⟩ := @finishControlSocket_last calls
          ⟨some (assignSocketGroup calls calls.created), true, false⟩ rfl
          (assignSocketGroup calls calls.created)
        exact ⟨last_behind (last_behind (last_behind (last_behind listening))),
          last_behind (last_behind (last_behind (last_behind held)))⟩

end NitroSense
