import NitroSense.Control.Groups
import NitroSense.Control.Protocol

/-!
# Clients of the control socket

`client_can_control` of `control/socket.c`, and `handle_client` over it: what a
client must send, and who it must be, before the daemon does more than report.
The databases of users and groups are parameters.
-/

namespace NitroSense

open Lib

structure Passwd where
  name : CString
  gid : UInt32

structure GroupEntry where
  gid : UInt32
  members : List CString

/-- What `getpwuid`, `getgrgid` and `getgrnam` of the service group find. -/
structure Accounts where
  passwd : UInt32 → Option Passwd
  groups : UInt32 → Option GroupEntry
  control : Option GroupEntry

/-- The credentials of a peer, with the status file of its process. -/
structure PeerCredentials where
  uid : UInt32
  gid : UInt32
  status : Option CString

def uidIsGroupMember (accounts : Accounts) (uid groupGid : UInt32) : Bool :=
  match accounts.passwd uid, accounts.groups groupGid with
  | some passwd, some group =>
      if passwd.gid = groupGid then true else group.members.any fun member => member = passwd.name
  | _, _ => false

/-- `client_can_control`; `none` is a socket whose peer is not known. -/
def clientCanControl (accounts : Accounts) (peer : Option PeerCredentials) : Bool :=
  match peer with
  | none => false
  | some cred =>
      if cred.uid = 0 then true
      else
        match accounts.control with
        | none => false
        | some group =>
            cred.gid = group.gid || pidHasGroup cred.status group.gid ||
              uidIsGroupMember accounts cred.uid group.gid

/-- A connected client: its peer and what its reads return. -/
structure Client where
  peer : Option PeerCredentials
  results : List ReadResult

/-- `handle_client`, with the bytes its command buffer starts with. -/
def serveClient (cfg : AnsConfig) (accounts : Accounts) (cmd : Nat → Char) (daemon : Daemon)
    (client : Client) : Daemon × CString :=
  handleClient cfg daemon (clientCommand cmd client.results)
    (clientCanControl accounts client.peer)

/-! ## Who may control the daemon -/

def UserInGroup (accounts : Accounts) (uid groupGid : UInt32) : Prop :=
  ∃ passwd ∈ accounts.passwd uid, ∃ group ∈ accounts.groups groupGid,
    passwd.gid = groupGid ∨ passwd.name ∈ group.members

theorem uidIsGroupMember_iff (accounts : Accounts) (uid groupGid : UInt32) :
    uidIsGroupMember accounts uid groupGid = true ↔ UserInGroup accounts uid groupGid := by
  unfold uidIsGroupMember UserInGroup
  split
  · rename_i passwd group user entry
    rw [user, entry]
    by_cases primary : passwd.gid = groupGid
    · simp [primary]
    · simp [primary]
  · rename_i missing
    refine ⟨nofun, ?_⟩
    rintro ⟨passwd, user, group, entry, -⟩
    exact absurd entry (missing passwd group user)

/-- A peer may control the daemon as root, or in the service group: by the group it runs with, by
one of the groups of its process, or by the databases. -/
theorem clientCanControl_iff {accounts : Accounts} {cred : PeerCredentials} {status : StatusText}
    (read : cred.status = some status.text) (whole : status.text.length ≤ 64 * 1024) :
    clientCanControl accounts (some cred) = true ↔
      cred.uid = 0 ∨ ∃ group ∈ accounts.control, cred.gid = group.gid ∨
        group.gid.toNat ∈ numbers status.gids ∨ UserInGroup accounts cred.uid group.gid := by
  unfold clientCanControl
  dsimp only
  split
  · rename_i root
    simp [root]
  · rename_i other
    cases control : accounts.control with
    | none => simp [other]
    | some group =>
        dsimp only
        rw [read, Bool.or_eq_true, Bool.or_eq_true, pidHasGroup_iff status whole,
          uidIsGroupMember_iff]
        simp [other, or_assoc]

/-! ## What a client does to the daemon -/

/-- A client only inspects the daemon, or it may control it and its whole line is a request. -/
theorem serveClient_outcome (cfg : AnsConfig) (accounts : Accounts) (cmd : Nat → Char)
    (daemon : Daemon) (client : Client) :
    OnlyInspected daemon (serveClient cfg accounts cmd daemon client).1 ∨
      clientCanControl accounts client.peer = true ∧
        ∃ line request, SendsLine client.results line ∧ line.length ≤ 254 ∧
          commandRequest (line.takeWhile (· != nul)) = some request ∧
          serveClient cfg accounts cmd daemon client = request.perform cfg daemon := by
  unfold serveClient
  rcases handleClient_outcome cfg daemon (clientCommand cmd client.results)
    (clientCanControl accounts client.peer) with inspected | ⟨request, asked, performed⟩
  · exact Or.inl inspected
  · right
    rcases clientCommand_cases cmd client.results with none | ⟨line, sends, -, fits, command⟩
    · rw [none] at asked
      cases asked
    · cases control : clientCanControl accounts client.peer with
      | false =>
          rw [control, command] at asked
          cases asked
      | true =>
          rw [control, command] at asked
          exact ⟨rfl, line, request, sends, fits, asked, control ▸ performed⟩

end NitroSense
