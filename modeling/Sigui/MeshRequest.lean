import Mathlib.Logic.Function.Basic
import Sigui.AdminSlot
import Sigui.RunRules

/-! Synchronous mesh commands. Any number of tasks claim a request slot, queue a command and wait
for its completion; one owner dequeues, admits or expires, and completes. Each atomic access, each
wipe or copy of a credential and each semaphore or queue operation is one step. -/
namespace Sigui.MeshRequest

open AdminSlot (RequestState RequestId GuardWord zeros copyInto)

/-- `D1L_MESHCORE_REQUEST_SLOT_COUNT` -/
abbrev slotCount : Nat := 6

abbrev SlotIndex := Fin slotCount

/-- `D1L_MESH_REQUEST_ID_MAX` -/
def idMax : RequestId := ⟨2 ^ 29 - 1, by decide⟩

inductive CredentialKind
  | password
  | cli
  deriving DecidableEq

/-- `D1L_MESH_COMMAND_ADMIN_PASSWORD_CAPACITY` and `D1L_MESH_COMMAND_ADMIN_CLI_CAPACITY`; a buffer
that a credential is taken into has the same size. -/
def CredentialKind.capacity : CredentialKind → Nat
  | .password => 16
  | .cli => 161

def CredentialKind.minLength : CredentialKind → Nat
  | .password => 0
  | .cli => 1

def CredentialKind.accepts (kind : CredentialKind) (secret : List UInt8) : Bool :=
  decide (kind.minLength ≤ secret.length) && decide (secret.length < kind.capacity)

structure Credential where
  bytes : List UInt8
  len : Nat
  present : Bool
  deriving DecidableEq

def Credential.wiped (kind : CredentialKind) : Credential := ⟨zeros kind.capacity, 0, false⟩

def Credential.fill (c : Credential) (secret : List UInt8) : Credential :=
  ⟨(copyInto secret c.bytes).set secret.length 0, secret.length, true⟩

/-- What `d1l_mesh_command_request_take_admin_password` and `_cli` hand out, if it is valid. -/
def Credential.take (c : Credential) (kind : CredentialKind) : Option (List UInt8) :=
  if c.present && decide (kind.minLength ≤ c.len) && decide (c.len < kind.capacity) &&
      decide (c.bytes[c.len]? = some 0) then
    some (c.bytes.take c.len)
  else none

structure Authority where
  password : Credential
  cli : Credential
  deriving DecidableEq

/-- `d1l_mesh_command_request_wipe_admin_authority` leaves this. -/
def Authority.wiped : Authority := ⟨.wiped .password, .wiped .cli⟩

def Authority.get (a : Authority) : CredentialKind → Credential
  | .password => a.password
  | .cli => a.cli

def Authority.put (a : Authority) (kind : CredentialKind) (c : Credential) : Authority :=
  match kind with
  | .password => { a with password := c }
  | .cli => { a with cli := c }

structure Slot where
  word : GuardWord
  authority : Authority
  /-- the binary semaphore `completion` -/
  signal : Bool
  result : EspErr
  deriving DecidableEq

def Slot.empty : Slot := ⟨.zero, .wiped, false, espOk⟩

structure Command where
  requestId : RequestId
  slot : SlotIndex
  credential : Option CredentialKind
  deriving DecidableEq

/-- How a call ended: `consume` has read a result, `cancel_and_release` has succeeded, or
neither. -/
inductive Outcome
  | completion (result : EspErr)
  | cancelled (ret : EspErr)
  | refused (ret : EspErr)
  deriving DecidableEq

inductive Event
  | stored (id : RequestId) (kind : CredentialKind) (secret : List UInt8)
  | executed (id : RequestId)
  | handedOut (id : RequestId) (kind : CredentialKind) (secret : List UInt8)
  | resultSet (id : RequestId) (result : EspErr)
  | signalled (id : RequestId)
  | returned (id : RequestId) (outcome : Outcome)
  deriving DecidableEq

/-- Who called `d1l_mesh_command_request_cancel_and_release`. -/
inductive Canceller
  | enqueue
  | abort (ret : EspErr)
  | wait
  deriving DecidableEq

/-- Who called `d1l_mesh_command_request_release`. -/
inductive Releaser
  | claim
  | consume (state : RequestState) (result : EspErr)
  deriving DecidableEq

def Releaser.state : Releaser → RequestState
  | .claim => .claimed
  | .consume state _ => state

/-- The loads of the guard word: by `meshcore_request_slot_for` at the start of each function, by
`_matches` and by `_state`. -/
inductive Look
  | storeSlot
  | storeMatches
  | storeState
  | sendSlot
  | enqueueMatches
  | enqueueState
  | abortSlot (ret : EspErr)
  | waitSlot
  /-- after the take with a timeout -/
  | taken
  /-- after the cancel that failed -/
  | overtaken
  /-- after the take without a timeout -/
  | signalled
  | consumeSlot (state : RequestState)
  | consumeState (state : RequestState)
  | releaseMatches (who : Releaser)
  | releaseState (who : Releaser)
  deriving DecidableEq

inductive Wiper
  | claim
  | store
  | cancel (who : Canceller)
  | release (who : Releaser)
  deriving DecidableEq

inductive Phase
  | idle
  | loadingId
  | takingId (observed : RequestId)
  | claiming (slot : SlotIndex)
  | wiping (who : Wiper)
  | draining
  | settingResult
  | publishing
  | looking (look : Look)
  | filling (kind : CredentialKind)
  | sending
  | cancelling (who : Canceller)
  | cancelReleasing (who : Canceller)
  | taking
  | takingForever
  | readingResult (state : RequestState)
  | drainingLast (state : RequestState) (result : EspErr)
  | releasing (who : Releaser)
  deriving DecidableEq

structure Caller where
  phase : Phase
  cmd : Command
  secret : List UInt8
  deriving DecidableEq

inductive Next
  | go (phase : Phase)
  | back (outcome : Outcome)
  deriving DecidableEq

/-- `d1l_mesh_request_guard_matches` on the loaded word -/
def guardMatches (id : RequestId) (word : GuardWord) : Bool :=
  decide (id ≠ 0) && decide (word.id = id)

def terminal (state : RequestState) : Bool :=
  decide (state = .completed) || decide (state = .ownerExpired)

def Look.next (look : Look) (cmd : Command) (word : GuardWord) : Next :=
  let found := guardMatches cmd.requestId word
  match look with
  | .storeSlot =>
    .go (.looking (if found then .storeMatches else .abortSlot espErrInvalidState))
  | .storeMatches =>
    .go (.looking (if found then .storeState else .abortSlot espErrInvalidState))
  | .storeState =>
    if word.state = .pending then .go (.wiping .store)
    else .go (.looking (.abortSlot espErrInvalidState))
  | .sendSlot =>
    .go (.looking (if found then .enqueueMatches else .abortSlot espErrInvalidState))
  | .enqueueMatches =>
    .go (.looking (if found then .enqueueState else .abortSlot espErrInvalidState))
  | .enqueueState =>
    if word.state = .pending then .go .sending
    else .go (.looking (.abortSlot espErrInvalidState))
  | .abortSlot ret => if found then .go (.cancelling (.abort ret)) else .back (.refused ret)
  | .waitSlot => if found then .go .taking else .back (.refused espErrInvalidState)
  | .taken =>
    if terminal word.state then .go (.looking (.consumeSlot word.state))
    else .go (.cancelling .wait)
  | .overtaken =>
    if word.state = .admitted || terminal word.state then .go .takingForever
    else .back (.refused
      (if word.state = .callerCancelled then espErrTimeout else espErrInvalidState))
  | .signalled =>
    if terminal word.state then .go (.looking (.consumeSlot word.state))
    else .back (.refused
      (if word.state = .callerCancelled then espErrTimeout else espErrInvalidState))
  | .consumeSlot state =>
    if found then .go (.looking (.consumeState state)) else .back (.refused espErrInvalidState)
  | .consumeState state =>
    if word.state = state then .go (.readingResult state)
    else .back (.refused espErrInvalidState)
  | .releaseMatches who =>
    if found then .go (.looking (.releaseState who)) else .back (.refused espErrInvalidState)
  | .releaseState who =>
    if word.state = who.state then .go (.wiping (.release who))
    else .back (.refused espErrInvalidState)

def Wiper.next : Wiper → Option CredentialKind → Phase
  | .claim, _ => .draining
  | .store, some kind => .filling kind
  | .store, none => .looking .sendSlot
  | .cancel who, _ => .cancelReleasing who
  | .release who, _ => .releasing who

/-- After `cancel_and_release` has answered. A refused cancel of an enqueue is reported as
`INVALID`, which aborts the command. -/
def Canceller.next : Canceller → Bool → Next
  | .enqueue, true => .back (.cancelled espErrTimeout)
  | .enqueue, false => .go (.looking (.abortSlot espErrInvalidState))
  | .abort ret, true => .back (.cancelled ret)
  | .abort ret, false => .back (.refused ret)
  | .wait, true => .back (.cancelled espErrTimeout)
  | .wait, false => .go (.looking .overtaken)

def Releaser.next : Releaser → Bool → Outcome
  | .claim, _ => .refused espErrInvalidState
  | .consume _ result, true => .completion result
  | .consume _ _, false => .refused espErrInvalidState

def Caller.published (c : Caller) : Phase :=
  match c.cmd.credential with
  | some _ => .looking .storeSlot
  | none => .looking .sendSlot

inductive OwnerLook
  | admitSlot
  | takeSlot
  | takeMatches
  | takeState
  | completeSlot (result : EspErr)
  | completeMatches
  | completeState
  deriving DecidableEq

inductive Owner
  | idle
  | looking (look : OwnerLook) (cmd : Command)
  | checkingDeadline (cmd : Command)
  | expiring (cmd : Command)
  | expireWiping (cmd : Command)
  | expireResult (cmd : Command)
  | admitting (cmd : Command)
  | dispatching (cmd : Command)
  /-- in the handler of the command -/
  | executing (cmd : Command)
  | copying (cmd : Command)
  | takeWiping (cmd : Command)
  | completeResult (cmd : Command) (result : EspErr)
  | completeWiping (cmd : Command)
  | completing (cmd : Command)
  | giving (cmd : Command)
  deriving DecidableEq

def OwnerLook.next (look : OwnerLook) (cmd : Command) (word : GuardWord) : Owner :=
  let found := guardMatches cmd.requestId word
  match look with
  | .admitSlot => if found then .checkingDeadline cmd else .idle
  | .takeSlot => if found then .looking .takeMatches cmd else .executing cmd
  | .takeMatches => if found then .looking .takeState cmd else .executing cmd
  | .takeState => if word.state = .admitted then .copying cmd else .executing cmd
  | .completeSlot result => if found then .completeResult cmd result else .idle
  | .completeMatches => if found then .looking .completeState cmd else .idle
  | .completeState => if word.state = .admitted then .completeWiping cmd else .idle

structure Shared where
  /-- `s_next_request_id` -/
  nextRequestId : RequestId
  slots : SlotIndex → Slot
  queue : List Command
  owner : Owner
  log : List Event

namespace Shared

def note (s : Shared) (event : Event) : Shared := { s with log := event :: s.log }

def setOwner (s : Shared) (owner : Owner) : Shared := { s with owner := owner }

def setSlot (s : Shared) (k : SlotIndex) (slot : Slot) : Shared :=
  { s with slots := Function.update s.slots k slot }

def withWord (s : Shared) (k : SlotIndex) (word : GuardWord) : Shared :=
  s.setSlot k { s.slots k with word := word }

def withAuthority (s : Shared) (k : SlotIndex) (authority : Authority) : Shared :=
  s.setSlot k { s.slots k with authority := authority }

def withSignal (s : Shared) (k : SlotIndex) (signal : Bool) : Shared :=
  s.setSlot k { s.slots k with signal := signal }

def withResult (s : Shared) (k : SlotIndex) (result : EspErr) : Shared :=
  s.setSlot k { s.slots k with result := result }

/-- The next step of the owner. `due` is the answer of the deadline check; in the handler, `takes`
says that it takes its credential next, and otherwise it returns `ret`. -/
def work (s : Shared) (due takes : Bool) (ret : EspErr) : Shared :=
  match s.owner with
  | .idle =>
    match s.queue with
    | [] => s
    | cmd :: queue => { s with queue := queue, owner := .looking .admitSlot cmd }
  | .looking look cmd => s.setOwner (look.next cmd (s.slots cmd.slot).word)
  | .checkingDeadline cmd => s.setOwner (if due then .expiring cmd else .admitting cmd)
  | .expiring cmd =>
    if (s.slots cmd.slot).word = ⟨cmd.requestId, .pending⟩ then
      (s.withWord cmd.slot ⟨cmd.requestId, .ownerExpired⟩).setOwner (.expireWiping cmd)
    else s.setOwner (.admitting cmd)
  | .expireWiping cmd => (s.withAuthority cmd.slot .wiped).setOwner (.expireResult cmd)
  | .expireResult cmd =>
    ((s.withResult cmd.slot espErrTimeout).note (.resultSet cmd.requestId espErrTimeout)).setOwner
      (.giving cmd)
  | .admitting cmd =>
    if (s.slots cmd.slot).word = ⟨cmd.requestId, .pending⟩ then
      (s.withWord cmd.slot ⟨cmd.requestId, .admitted⟩).setOwner (.dispatching cmd)
    else s.setOwner .idle
  | .dispatching cmd => (s.note (.executed cmd.requestId)).setOwner (.executing cmd)
  | .executing cmd =>
    s.setOwner (if takes && cmd.credential.isSome then .looking .takeSlot cmd
      else .looking (.completeSlot ret) cmd)
  | .copying cmd =>
    match cmd.credential with
    | none => s.setOwner (.executing cmd)
    | some kind =>
      match ((s.slots cmd.slot).authority.get kind).take kind with
      | some secret =>
        (s.note (.handedOut cmd.requestId kind secret)).setOwner (.takeWiping cmd)
      | none => s.setOwner (.takeWiping cmd)
  | .takeWiping cmd => (s.withAuthority cmd.slot .wiped).setOwner (.executing cmd)
  | .completeResult cmd result =>
    ((s.withResult cmd.slot result).note (.resultSet cmd.requestId result)).setOwner
      (.looking .completeMatches cmd)
  | .completeWiping cmd => (s.withAuthority cmd.slot .wiped).setOwner (.completing cmd)
  | .completing cmd =>
    if (s.slots cmd.slot).word = ⟨cmd.requestId, .admitted⟩ then
      (s.withWord cmd.slot ⟨cmd.requestId, .completed⟩).setOwner (.giving cmd)
    else s.setOwner .idle
  | .giving cmd =>
    ((s.withSignal cmd.slot true).note (.signalled cmd.requestId)).setOwner .idle

end Shared

variable {τ : Type} [DecidableEq τ]

structure System (τ : Type) extends Shared where
  callers : τ → Caller

namespace System

def setCaller (s : System τ) (t : τ) (c : Caller) (shared : Shared) : System τ :=
  ⟨shared, Function.update s.callers t c⟩

def goTo (s : System τ) (t : τ) (phase : Phase) (shared : Shared) : System τ :=
  s.setCaller t { s.callers t with phase := phase } shared

/-- The call of `t` goes on or returns. -/
def follow (s : System τ) (t : τ) (next : Next) (shared : Shared) : System τ :=
  match next with
  | .go phase => s.goTo t phase shared
  | .back outcome =>
    s.goTo t .idle (shared.note (.returned (s.callers t).cmd.requestId outcome))

/-- The next step of the call of `t`. `late` says that the queue stayed full or that the take ran
out of time. -/
def advance (s : System τ) (t : τ) (late : Bool) : System τ :=
  let c := s.callers t
  let id := c.cmd.requestId
  let k := c.cmd.slot
  let slot := s.slots k
  let here := s.toShared
  match c.phase with
  | .idle => s
  | .loadingId => s.goTo t (.takingId s.nextRequestId) here
  | .takingId observed =>
    if observed = idMax then s.goTo t .idle here
    else if s.nextRequestId = observed then
      s.setCaller t { c with phase := .claiming 0, cmd := { c.cmd with requestId := observed + 1 } }
        { here with nextRequestId := observed + 1 }
    else s.goTo t (.takingId s.nextRequestId) here
  | .claiming i =>
    if (s.slots i).word = .zero then
      s.setCaller t { c with phase := .wiping .claim, cmd := { c.cmd with slot := i } }
        (here.withWord i ⟨id, .claimed⟩)
    else if h : i.val + 1 < slotCount then s.goTo t (.claiming ⟨i.val + 1, h⟩) here
    else s.follow t (.back (.refused espErrTimeout)) here
  | .wiping who => s.goTo t (who.next c.cmd.credential) (here.withAuthority k .wiped)
  | .draining =>
    if slot.signal then s.goTo t .draining (here.withSignal k false)
    else s.goTo t .settingResult here
  | .settingResult => s.goTo t .publishing (here.withResult k espErrTimeout)
  | .publishing =>
    if slot.word = ⟨id, .claimed⟩ then s.goTo t c.published (here.withWord k ⟨id, .pending⟩)
    else s.goTo t (.looking (.releaseMatches .claim)) here
  | .looking look => s.follow t (look.next c.cmd slot.word) here
  | .filling kind =>
    s.goTo t (.looking .sendSlot)
      ((here.withAuthority k
        (slot.authority.put kind ((slot.authority.get kind).fill c.secret))).note
          (.stored id kind c.secret))
  | .sending =>
    if late then s.goTo t (.cancelling .enqueue) here
    else s.goTo t (.looking .waitSlot) { here with queue := s.queue ++ [c.cmd] }
  | .cancelling who =>
    if slot.word = ⟨id, .pending⟩ then
      s.goTo t (.wiping (.cancel who)) (here.withWord k ⟨id, .callerCancelled⟩)
    else s.follow t (who.next false) here
  | .cancelReleasing who =>
    if slot.word = ⟨id, .callerCancelled⟩ then s.follow t (who.next true) (here.withWord k .zero)
    else s.follow t (who.next false) here
  | .taking =>
    if slot.signal then s.goTo t (.looking .taken) (here.withSignal k false)
    else if late then s.goTo t (.cancelling .wait) here
    else s
  | .takingForever =>
    if slot.signal then s.goTo t (.looking .signalled) (here.withSignal k false) else s
  | .readingResult state => s.goTo t (.drainingLast state slot.result) here
  | .drainingLast state result =>
    s.goTo t (.looking (.releaseMatches (.consume state result))) (here.withSignal k false)
  | .releasing who =>
    if slot.word = ⟨id, who.state⟩ then
      s.follow t (.back (who.next true)) (here.withWord k .zero)
    else s.follow t (.back (who.next false)) here

/-- The call starts; a credential that is too long or empty is refused before. -/
def call (s : System τ) (t : τ) (credential : Option CredentialKind) (secret : List UInt8) :
    System τ :=
  match credential with
  | some kind =>
    if kind.accepts secret then
      s.setCaller t ⟨.loadingId, ⟨0, 0, some kind⟩, secret⟩ s.toShared
    else s
  | none => s.setCaller t ⟨.loadingId, ⟨0, 0, none⟩, []⟩ s.toShared

end System

inductive Act (τ : Type)
  | call (t : τ) (credential : Option CredentialKind) (secret : List UInt8)
  | advance (t : τ) (late : Bool)
  | work (due takes : Bool) (ret : EspErr)
  deriving DecidableEq

def step (s : System τ) (act : Act τ) : System τ :=
  match act with
  | .call t credential secret =>
    if (s.callers t).phase = .idle then s.call t credential secret else s
  | .advance t late => s.advance t late
  | .work due takes ret => { s with toShared := s.toShared.work due takes ret }

def boot : System τ where
  nextRequestId := 0
  slots := fun _ => .empty
  queue := []
  owner := .idle
  log := []
  callers := fun _ => ⟨.idle, ⟨0, 0, none⟩, []⟩

end Sigui.MeshRequest
