import Mathlib.Data.List.Nodup
import Mathlib.Data.List.Range
import Ubass.Lib.Bytes
import Ubass.Lib.Machine
import Ubass.Lib.Table
import Ubass.Packets

/-!
# Encryption of a session

The cipher and nonce counter of a session (`EncryptionWindow`), the two users of
the counter in `packet_processor/encryption.rs`, and the insertion of the
windows at both ends of a handshake.

X25519 and AES-256-GCM are parameters.  Of the key exchange the development uses
that both ends compute the same secret; of the cipher it records under which key
and nonce it was invoked.
-/

set_option autoImplicit false

namespace Ubass

universe u

/-- The key exchange: each end derives the key from its secret and the other's public key. -/
structure KeyExchange (Key : Type u) where
  Secret : Type
  publicKey : Secret → PublicKey
  getSharedSecret : Secret → PublicKey → Key
  agree : ∀ left right,
    getSharedSecret left (publicKey right) = getSharedSecret right (publicKey left)

def getNonce (sessionId : SessionId) (counter : List UInt8) : List UInt8 :=
  (Bytes.beBytes 8 sessionId.id.toNat).take 4 ++ counter

structure EncryptionWindow (Key : Type u) where
  cipher : Key
  nonce : UInt64
deriving DecidableEq

namespace EncryptionWindow

variable {Key : Type u}

def new (cipher : Key) : EncryptionWindow Key := ⟨cipher, 0⟩

/-- `get`: the cipher, the counter before it is increased, and the window afterwards.  The
atomic addition wraps. -/
def get (self : EncryptionWindow Key) : (Key × List UInt8) × EncryptionWindow Key :=
  ((self.cipher, Bytes.beBytes 8 self.nonce.toNat), { self with nonce := self.nonce + 1 })

end EncryptionWindow

abbrev EncryptionTable (Key : Type u) := Table SessionId (EncryptionWindow Key)

structure Invocation (Key : Type u) where
  key : Key
  nonce : List UInt8
deriving DecidableEq

/-- `encrypt_in_place` of AES-GCM: key, nonce, associated data and buffer to the buffer with the
tag at its end. -/
abbrev EncryptInPlace (Key : Type u) :=
  Key → List UInt8 → List UInt8 → List UInt8 → List UInt8

section Calls

variable {Key : Type u} (encryptInPlace : EncryptInPlace Key)

/-- `encrypt`: the new payload, the table and the invocation. -/
def encrypt (table : EncryptionTable Key) (sessionId : SessionId) (headers payload : List UInt8) :
    Option (List UInt8 × EncryptionTable Key × Invocation Key) :=
  (table.get sessionId).map fun window =>
    let ((cipher, counter), next) := window.get
    let nonce := getNonce sessionId counter
    (encryptInPlace cipher nonce headers payload ++ counter, table.insert sessionId next,
      ⟨cipher, nonce⟩)

/-- `tag`: the packet with tag and counter, the table and the invocation. -/
def tag (table : EncryptionTable Key) (sessionId : SessionId) (packet : List UInt8) :
    Option (List UInt8 × EncryptionTable Key × Invocation Key) :=
  (table.get sessionId).map fun window =>
    let ((cipher, counter), next) := window.get
    let nonce := getNonce sessionId counter
    (packet ++ encryptInPlace cipher nonce packet [] ++ counter, table.insert sessionId next,
      ⟨cipher, nonce⟩)

end Calls

/-! ## The two ends of a handshake -/

section Handshake

variable {Key : Type u} (keyExchange : KeyExchange Key)

/-- The encryption entry of `received_hello_packet_as_receiver`, and its answer. -/
def receivedHelloAsReceiver (table : EncryptionTable Key) (packet : HelloPacket)
    (sessionId : SessionId) (ephemeralSecret : keyExchange.Secret) (appId : AppId)
    (now : Timestamp) : EncryptionTable Key × HelloPacket :=
  let key := keyExchange.getSharedSecret ephemeralSecret packet.publicKey
  (table.insert sessionId (EncryptionWindow.new key),
    HelloPacket.new (Options.construct [.requireAck]) sessionId packet.handshakeId
      (keyExchange.publicKey ephemeralSecret) appId now)

/-- The encryption entry of `received_hello_packet_as_initializer`. -/
def receivedHelloAsInitializer (table : EncryptionTable Key) (packet : HelloPacket)
    (secret : keyExchange.Secret) : EncryptionTable Key :=
  let key := keyExchange.getSharedSecret secret packet.publicKey
  table.insert packet.proposedSessionId (EncryptionWindow.new key)

end Handshake

/-! ## Runs of an established session -/

inductive Endpoint where
  | initiator
  | responder
deriving DecidableEq

inductive EncryptionCall where
  | encrypt (headers payload : List UInt8)
  | tag (packet : List UInt8)
deriving DecidableEq

/-- Both ends of a session and the AES-GCM invocations made so far, in order. -/
structure EncryptedSession (Key : Type u) where
  initiator : EncryptionTable Key
  responder : EncryptionTable Key
  invocations : List (Invocation Key)

namespace EncryptedSession

variable {Key : Type u}

def table (self : EncryptedSession Key) : Endpoint → EncryptionTable Key
  | .initiator => self.initiator
  | .responder => self.responder

def setTable (self : EncryptedSession Key) (endpoint : Endpoint) (table : EncryptionTable Key) :
    EncryptedSession Key :=
  match endpoint with
  | .initiator => { self with initiator := table }
  | .responder => { self with responder := table }

def call (encryptInPlace : EncryptInPlace Key) (table : EncryptionTable Key)
    (sessionId : SessionId) : EncryptionCall →
      Option (List UInt8 × EncryptionTable Key × Invocation Key)
  | .encrypt headers payload => Ubass.encrypt encryptInPlace table sessionId headers payload
  | .tag packet => Ubass.tag encryptInPlace table sessionId packet

def step (encryptInPlace : EncryptInPlace Key) (sessionId : SessionId)
    (self : EncryptedSession Key) (label : Endpoint × EncryptionCall) :
    Option (EncryptedSession Key) :=
  (call encryptInPlace (self.table label.1) sessionId label.2).map fun result =>
    { self.setTable label.1 result.2.1 with invocations := self.invocations ++ [result.2.2] }

/-- A session right after its handshake: the responder answered the initiator's `Hello`, and the
initiator got that answer. -/
def Established (keyExchange : KeyExchange Key) (sessionId : SessionId)
    (self : EncryptedSession Key) : Prop :=
  ∃ (before : EncryptedSession Key) (hello : HelloPacket)
    (initiatorSecret responderSecret : keyExchange.Secret) (appId : AppId) (now : Timestamp),
    hello.publicKey = keyExchange.publicKey initiatorSecret ∧
    self.responder = (receivedHelloAsReceiver keyExchange before.responder hello sessionId
      responderSecret appId now).1 ∧
    self.initiator = receivedHelloAsInitializer keyExchange before.initiator
      (receivedHelloAsReceiver keyExchange before.responder hello sessionId responderSecret
        appId now).2 initiatorSecret ∧
    self.invocations = []

/-- The calls on one established session. -/
def machine (keyExchange : KeyExchange Key) (encryptInPlace : EncryptInPlace Key)
    (sessionId : SessionId) : Machine (EncryptedSession Key) (Endpoint × EncryptionCall) where
  initial := Established keyExchange sessionId
  step := step encryptInPlace sessionId

def NoncesDistinct (self : EncryptedSession Key) : Prop := self.invocations.Nodup

/-! ## The counters of a run -/

/-- The counters with which calls at these ends are made, when each end has made `used` calls
before. -/
def countersFrom (used : Endpoint → Nat) : List Endpoint → List Nat
  | [] => []
  | endpoint :: rest =>
      used endpoint :: countersFrom (Function.update used endpoint (used endpoint + 1)) rest

def invocationAt (key : Key) (sessionId : SessionId) (counter : Nat) : Invocation Key :=
  ⟨key, getNonce sessionId (Bytes.beBytes 8 (counter % 2 ^ 64))⟩

/-- Both windows hold the key, and each end has used its own as often as `used` says. -/
def Windows (key : Key) (sessionId : SessionId) (used : Endpoint → Nat)
    (self : EncryptedSession Key) : Prop :=
  ∀ endpoint, (self.table endpoint).get sessionId =
    some ⟨key, UInt64.ofNat (used endpoint)⟩

theorem table_setTable (self : EncryptedSession Key) (endpoint other : Endpoint)
    (table : EncryptionTable Key) :
    (self.setTable endpoint table).table other =
      if other = endpoint then table else self.table other := by
  cases endpoint <;> cases other <;> rfl

theorem established_windows {keyExchange : KeyExchange Key} {sessionId : SessionId}
    {self : EncryptedSession Key} (established : Established keyExchange sessionId self) :
    ∃ key, Windows key sessionId (fun _ => 0) self := by
  obtain ⟨before, hello, initiatorSecret, responderSecret, appId, now, sent, responder, initiator,
    _⟩ := established
  refine ⟨keyExchange.getSharedSecret initiatorSecret (keyExchange.publicKey responderSecret), ?_⟩
  intro endpoint
  cases endpoint with
  | initiator =>
      rw [table, initiator]
      exact Table.get_insert_self _ _ _
  | responder =>
      rw [table, responder, keyExchange.agree, ← sent]
      exact Table.get_insert_self _ _ _

theorem call_eq (encryptInPlace : EncryptInPlace Key) {table : EncryptionTable Key}
    {sessionId : SessionId} {key : Key} {counter : Nat}
    (window : table.get sessionId = some ⟨key, UInt64.ofNat counter⟩) (made : EncryptionCall) :
    ∃ payload, call encryptInPlace table sessionId made =
      some (payload, table.insert sessionId ⟨key, UInt64.ofNat (counter + 1)⟩,
        invocationAt key sessionId counter) := by
  have next : UInt64.ofNat counter + 1 = UInt64.ofNat (counter + 1) :=
    (UInt64.ofNat_add counter 1).symm
  have nonce : invocationAt key sessionId counter =
      ⟨key, getNonce sessionId (Bytes.beBytes 8 (UInt64.ofNat counter).toNat)⟩ := by
    rw [invocationAt, UInt64.toNat_ofNat']
  cases made with
  | encrypt headers payload =>
      simp only [call, Ubass.encrypt, window, Option.map_some, EncryptionWindow.get, next, nonce]
      exact ⟨_, rfl⟩
  | tag packet =>
      simp only [call, Ubass.tag, window, Option.map_some, EncryptionWindow.get, next, nonce]
      exact ⟨_, rfl⟩

theorem step_windows (encryptInPlace : EncryptInPlace Key) {sessionId : SessionId} {key : Key}
    {used : Endpoint → Nat} {self : EncryptedSession Key}
    (windows : Windows key sessionId used self) (label : Endpoint × EncryptionCall) :
    ∃ next, self.step encryptInPlace sessionId label = some next ∧
      Windows key sessionId (Function.update used label.1 (used label.1 + 1)) next ∧
      next.invocations = self.invocations ++ [invocationAt key sessionId (used label.1)] := by
  obtain ⟨payload, made⟩ := call_eq encryptInPlace (windows label.1) label.2
  refine ⟨_, by rw [step, made]; rfl, ?_, rfl⟩
  intro endpoint
  have same : ({ self.setTable label.1 ((self.table label.1).insert sessionId
      ⟨key, UInt64.ofNat (used label.1 + 1)⟩) with
        invocations := self.invocations ++ [invocationAt key sessionId (used label.1)] } :
          EncryptedSession Key).table endpoint =
      if endpoint = label.1 then
        (self.table label.1).insert sessionId ⟨key, UInt64.ofNat (used label.1 + 1)⟩
      else self.table endpoint := by
    rw [← table_setTable]
    cases endpoint <;> rfl
  rw [same]
  by_cases here : endpoint = label.1
  · rw [if_pos here, here, Function.update_self, Table.get_insert_self]
  · rw [if_neg here, Function.update_of_ne here]
    exact windows endpoint

theorem run_windows (keyExchange : KeyExchange Key) (encryptInPlace : EncryptInPlace Key)
    {sessionId : SessionId} {key : Key} {used : Endpoint → Nat} {self : EncryptedSession Key}
    (windows : Windows key sessionId used self) (calls : List (Endpoint × EncryptionCall)) :
    ∃ final, (machine keyExchange encryptInPlace sessionId).run self calls = some final ∧
      final.invocations = self.invocations ++
        (countersFrom used (calls.map Prod.fst)).map (invocationAt key sessionId) := by
  induction calls generalizing self used with
  | nil => exact ⟨self, rfl, (List.append_nil _).symm⟩
  | cons label rest ih =>
      obtain ⟨next, stepped, kept, invocations⟩ :=
        step_windows encryptInPlace windows label
      obtain ⟨final, ran, all⟩ := ih kept
      refine ⟨final, Machine.run_cons_eq_some _ |>.mpr ⟨next, stepped, ran⟩, ?_⟩
      rw [all, invocations, List.append_assoc]
      rfl

/-! ## When the counters are distinct -/

theorem invocationAt_inj (key : Key) (sessionId : SessionId) {left right : Nat} :
    invocationAt key sessionId left = invocationAt key sessionId right ↔
      left % 2 ^ 64 = right % 2 ^ 64 := by
  constructor
  · intro same
    have nonces := congrArg Invocation.nonce same
    simp only [invocationAt, getNonce] at nonces
    have counters := List.append_cancel_left nonces
    exact Bytes.beBytes_injective (Nat.mod_lt _ (Nat.two_pow_pos 64))
      (Nat.mod_lt _ (Nat.two_pow_pos 64)) counters
  · intro same
    rw [invocationAt, invocationAt, same]

theorem mem_countersFrom (used : Endpoint → Nat) {endpoint : Endpoint} {endpoints : List Endpoint}
    (calls : endpoint ∈ endpoints) : used endpoint ∈ countersFrom used endpoints := by
  induction endpoints generalizing used with
  | nil => cases calls
  | cons first rest ih =>
      by_cases here : endpoint = first
      · rw [here]
        exact List.mem_cons_self
      · have later := ih (Function.update used first (used first + 1))
          (List.mem_of_ne_of_mem here calls)
        rw [Function.update_of_ne here] at later
        exact List.mem_cons_of_mem _ later

theorem countersFrom_not_nodup {endpoints : List Endpoint} {used : Endpoint → Nat}
    (sameStart : ∀ left right, used left = used right)
    (mixed : ¬ ∃ endpoint, ∀ other ∈ endpoints, other = endpoint) :
    ¬ (countersFrom used endpoints).Nodup := by
  cases endpoints with
  | nil => exact absurd ⟨.initiator, fun other member => absurd member List.not_mem_nil⟩ mixed
  | cons first rest =>
      have other : ∃ other ∈ rest, other ≠ first := by
        by_contra none
        push Not at none
        refine mixed ⟨first, fun other member => ?_⟩
        rcases List.mem_cons.mp member with same | later
        · exact same
        · exact none other later
      obtain ⟨other, later, different⟩ := other
      have again := mem_countersFrom (Function.update used first (used first + 1)) later
      rw [Function.update_of_ne different, sameStart other first] at again
      exact fun distinct => (List.nodup_cons.mp distinct).1 again

theorem countersFrom_of_single {endpoint : Endpoint} {endpoints : List Endpoint}
    (used : Endpoint → Nat) (single : ∀ other ∈ endpoints, other = endpoint) :
    countersFrom used endpoints = List.range' (used endpoint) endpoints.length := by
  induction endpoints generalizing used with
  | nil => rfl
  | cons first rest ih =>
      have same : first = endpoint := single first List.mem_cons_self
      subst same
      have rest := ih (Function.update used first (used first + 1))
        fun other member => single other (List.mem_cons_of_mem _ member)
      rw [countersFrom, rest, Function.update_self]
      rfl

theorem consecutive_nodup_iff (key : Key) (sessionId : SessionId) (count : Nat) :
    ((List.range' 0 count).map (invocationAt key sessionId)).Nodup ↔ count ≤ 2 ^ 64 := by
  rw [← List.range_eq_range']
  constructor
  · intro distinct
    by_contra more
    have injective := List.inj_on_of_nodup_map distinct
    have wrapped := injective (List.mem_range.mpr (show 0 < count by omega))
      (List.mem_range.mpr (show 2 ^ 64 < count by omega))
      ((invocationAt_inj key sessionId).mpr rfl)
    cases wrapped
  · intro few
    refine List.Nodup.map_on ?_ List.nodup_range
    intro left leftIn right rightIn same
    have residues := (invocationAt_inj key sessionId).mp same
    rwa [Nat.mod_eq_of_lt ((List.mem_range.mp leftIn).trans_le few),
      Nat.mod_eq_of_lt ((List.mem_range.mp rightIn).trans_le few)] at residues

/-- After any calls on an established session, no two invocations under the session key share a
nonce if and only if only one end made calls, and at most `2 ^ 64` of them. -/
theorem nonces_distinct_iff (keyExchange : KeyExchange Key) (encryptInPlace : EncryptInPlace Key)
    (sessionId : SessionId) (first final : EncryptedSession Key)
    (established : Established keyExchange sessionId first)
    (calls : List (Endpoint × EncryptionCall))
    (ran : (machine keyExchange encryptInPlace sessionId).run first calls = some final) :
    final.NoncesDistinct ↔
      (∃ endpoint, ∀ call ∈ calls, call.1 = endpoint) ∧ calls.length ≤ 2 ^ 64 := by
  obtain ⟨key, windows⟩ := established_windows established
  obtain ⟨_, _, _, _, _, _, _, _, _, none⟩ := established
  obtain ⟨other, otherRan, invocations⟩ :=
    run_windows keyExchange encryptInPlace windows calls
  cases Option.some.inj (otherRan.symm.trans ran)
  rw [none, List.nil_append] at invocations
  have endpoints : (∃ endpoint, ∀ call ∈ calls, call.1 = endpoint) ↔
      ∃ endpoint, ∀ other ∈ calls.map Prod.fst, other = endpoint := by
    simp only [List.forall_mem_map]
  rw [NoncesDistinct, invocations, endpoints]
  by_cases single : ∃ endpoint, ∀ other ∈ calls.map Prod.fst, other = endpoint
  · obtain ⟨endpoint, same⟩ := single
    rw [countersFrom_of_single _ same, consecutive_nodup_iff, List.length_map]
    exact ⟨fun few => ⟨⟨endpoint, same⟩, few⟩, fun both => both.2⟩
  · refine iff_of_false ?_ (fun both => single both.1)
    exact fun distinct => countersFrom_not_nodup (fun _ _ => rfl) single (List.Nodup.of_map _ distinct)

def productExchange : KeyExchange Nat where
  Secret := UInt64
  publicKey secret := ⟨Bytes.beBytes 32 secret.toNat, Bytes.length_beBytes 32 _⟩
  getSharedSecret secret other := secret.toNat * Bytes.ofBeBytes other.bytes
  agree left right := by
    have fits : ∀ secret : UInt64, secret.toNat < 256 ^ 32 := fun secret =>
      secret.toNat_lt.trans (by decide)
    rw [Bytes.ofBeBytes_beBytes (fits right), Bytes.ofBeBytes_beBytes (fits left), Nat.mul_comm]

def established : EncryptedSession Nat :=
  let hello := HelloPacket.new Options.none ⟨9⟩ ⟨1⟩ (productExchange.publicKey (3 : UInt64)) ⟨[]⟩
    ⟨0, by decide⟩
  let answer := receivedHelloAsReceiver productExchange Table.empty hello ⟨9⟩ (5 : UInt64) ⟨[]⟩
    ⟨0, by decide⟩
  { initiator := receivedHelloAsInitializer productExchange Table.empty answer.2 (3 : UInt64)
    responder := answer.1
    invocations := [] }

theorem established_established : Established productExchange ⟨9⟩ established :=
  ⟨⟨Table.empty, Table.empty, []⟩, _, (3 : UInt64), (5 : UInt64), ⟨[]⟩, ⟨0, by decide⟩, rfl, rfl,
    rfl, rfl⟩

theorem nonces_distinct_iff_two_calls :
    ∃ final, (machine productExchange (fun _ _ _ payload => payload) ⟨9⟩).run established
        [(.initiator, .tag [1]), (.initiator, .encrypt [2] [3])] = some final ∧
      (final.NoncesDistinct ↔
        (∃ endpoint, ∀ call ∈ ([(.initiator, .tag [1]), (.initiator, .encrypt [2] [3])] :
            List (Endpoint × EncryptionCall)), call.1 = endpoint) ∧ 2 ≤ 2 ^ 64) :=
  ⟨_, rfl, nonces_distinct_iff productExchange (fun _ _ _ payload => payload) ⟨9⟩ established _
    established_established [(.initiator, .tag [1]), (.initiator, .encrypt [2] [3])] rfl⟩

/-- The first packet of each end is sealed under the same key and the same nonce. -/
theorem both_ends_reuse_nonce :
    ∃ final, (machine productExchange (fun _ _ _ payload => payload) ⟨9⟩).run established
        [(.initiator, .tag [1]), (.responder, .tag [2])] = some final ∧
      final.invocations = [⟨15, List.replicate 12 0⟩, ⟨15, List.replicate 12 0⟩] ∧
      ¬ final.NoncesDistinct := by
  have invocations : ∀ list : List (Invocation Nat),
      list = [⟨15, List.replicate 12 0⟩, ⟨15, List.replicate 12 0⟩] → ¬ list.Nodup := by
    rintro list rfl
    decide
  exact ⟨_, rfl, by decide, invocations _ (by decide)⟩

end EncryptedSession
end Ubass
