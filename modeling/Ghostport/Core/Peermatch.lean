import Mathlib.Data.Finset.Basic
import Ghostport.Core.Config

/-!
# Peer matching (`crates/ghostport-core/src/peermatch.rs`)

The responder of `Noise_KK` needs the remote static key before it can process
the first handshake message, so the server tries the key of each configured
peer in turn. The `snow` crate is a parameter.

Results:
* `matchPeerBytes_ok`: a match is one of the peers, and the responder built for
  its key accepted the message.
* `producer_of_matchPeerBytes`: under the symbolic reading of `Noise_KK` the
  message was produced with the key of the matched peer.
-/

namespace Ghostport.Core

/-! ## Model -/

/-- What the server uses of `snow`: `Builder::build_responder` for `PATTERN`, and
    `HandshakeState::read_message`, which also writes into the payload buffer. -/
structure Snow where
  HandshakeState : Type
  buildResponder : (localPrivate remotePublic : List UInt8) → Except String HandshakeState
  readMessage : HandshakeState → (message payload : List UInt8) →
    Except String HandshakeState × List UInt8

/-- `noise::responder` (`noise.rs`, lines 36-43). -/
def Snow.responder (snow : Snow) (localPrivate remotePublic : List UInt8) :
    Except String snow.HandshakeState :=
  (snow.buildResponder localPrivate remotePublic).mapError fun e =>
    "failed to build Noise responder: " ++ e

/-- `ResolvedPeer` (lines 27-34). -/
structure ResolvedPeer where
  name : String
  publicKey : List UInt8
  links : Finset String
  deriving DecidableEq

inductive MatchError where
  | io (e : String)
  | noMatch
  deriving DecidableEq, Repr

/-- `Display` of `MatchError`. -/
def MatchError.display : MatchError → String
  | .io e => e
  | .noMatch => "no configured peer matched"

/-- The loop of `match_peer_bytes` (lines 86-94) from `index` on; `payload` is the
    buffer that all candidates share. -/
def matchPeerLoop (snow : Snow) (message privateKey : List UInt8) :
    ℕ → List UInt8 → List ResolvedPeer → Option (ℕ × snow.HandshakeState)
  | _, _, [] => none
  | index, payload, peer :: peers =>
    match snow.responder privateKey peer.publicKey with
    | .error _ => matchPeerLoop snow message privateKey (index + 1) payload peers
    | .ok state =>
      match snow.readMessage state message payload with
      | (.ok state, _) => some (index, state)
      | (.error _, payload) => matchPeerLoop snow message privateKey (index + 1) payload peers

/-- `match_peer_bytes` (lines 80-95). -/
def matchPeerBytes (snow : Snow) (message privateKey : List UInt8) (peers : List ResolvedPeer) :
    Except MatchError (ℕ × snow.HandshakeState) :=
  match matchPeerLoop snow message privateKey 0 (List.replicate message.length 0) peers with
  | some r => .ok r
  | none => .error .noMatch

/-- The reading side of a TCP stream: the bytes that arrive, and the error a read
    gets that asks for more of them (end of file, or a reset). -/
structure Incoming where
  bytes : List UInt8
  fault : String
  deriving DecidableEq, Repr

/-- `read_u16_le`. -/
def Incoming.readU16Le (tcp : Incoming) : Except String (ℕ × Incoming) :=
  match tcp.bytes with
  | lo :: hi :: rest => .ok (lo.toNat + 256 * hi.toNat, { tcp with bytes := rest })
  | _ => .error tcp.fault

/-- `read_exact` into a buffer of `len` bytes. -/
def Incoming.readExact (tcp : Incoming) (len : ℕ) : Except String (List UInt8 × Incoming) :=
  if len ≤ tcp.bytes.length then
    .ok (tcp.bytes.take len, { tcp with bytes := tcp.bytes.drop len })
  else .error tcp.fault

/-- `match_peer` (lines 62-71). -/
def matchPeer (snow : Snow) (tcp : Incoming) (privateKey : List UInt8)
    (peers : List ResolvedPeer) : Except MatchError (ℕ × snow.HandshakeState) :=
  match tcp.readU16Le with
  | .error e => .error (.io e)
  | .ok (len, tcp) =>
    match tcp.readExact len with
    | .error e => .error (.io e)
    | .ok (message, _) => matchPeerBytes snow message privateKey peers

/-- The handshake message that `match_peer` reads, if a whole one arrives. -/
def Incoming.message (tcp : Incoming) : Option (List UInt8) :=
  match tcp.readU16Le with
  | .error _ => none
  | .ok (len, tcp) => (tcp.readExact len).toOption.map Prod.fst

/-- The peers of a server config with their keys decoded (`src/main.rs`, lines
    327-342). -/
def resolvePeers (base64 : Base64) : List PeerConfig → Except String (List ResolvedPeer)
  | [] => .ok []
  | peer :: peers =>
    match decodePublicKey base64 peer.publicKey with
    | .error e => .error ("peer \"" ++ peer.name ++ "\": " ++ e)
    | .ok publicKey =>
      (resolvePeers base64 peers).map fun rest =>
        { name := peer.name, publicKey := publicKey, links := peer.links.toFinset } :: rest

/-! ## What a match means -/

theorem matchPeerLoop_some {snow : Snow} {message privateKey payload : List UInt8} {i : ℕ}
    {peers : List ResolvedPeer} {index : ℕ} {state : snow.HandshakeState}
    (h : matchPeerLoop snow message privateKey i payload peers = some (index, state)) :
    ∃ peer st payload', i ≤ index ∧ peers[index - i]? = some peer ∧
      snow.responder privateKey peer.publicKey = .ok st ∧
      (snow.readMessage st message payload').1 = .ok state := by
  induction peers generalizing i payload with
  | nil => simp [matchPeerLoop] at h
  | cons peer peers ih =>
    have next : ∀ {payload}, matchPeerLoop snow message privateKey (i + 1) payload peers =
        some (index, state) → ∃ p st payload', i ≤ index ∧ (peer :: peers)[index - i]? = some p ∧
          snow.responder privateKey p.publicKey = .ok st ∧
          (snow.readMessage st message payload').1 = .ok state := by
      intro payload h
      obtain ⟨p, st, payload', hi, hp, hs, hr⟩ := ih h
      refine ⟨p, st, payload', by omega, ?_, hs, hr⟩
      rw [show index - i = (index - (i + 1)) + 1 by omega]
      simpa using hp
    simp only [matchPeerLoop] at h
    split at h
    · exact next h
    · rename_i st hst
      split at h
      · rename_i st' payload' hread
        cases h
        exact ⟨peer, st, payload, le_rfl, by simp, hst, by rw [hread]⟩
      · exact next h

/-- A match is one of the peers, and the responder built for its key accepted the
    message. -/
theorem matchPeerBytes_ok {snow : Snow} {message privateKey : List UInt8}
    {peers : List ResolvedPeer} {index : ℕ} {state : snow.HandshakeState}
    (h : matchPeerBytes snow message privateKey peers = .ok (index, state)) :
    ∃ peer st payload, peers[index]? = some peer ∧
      snow.responder privateKey peer.publicKey = .ok st ∧
      (snow.readMessage st message payload).1 = .ok state := by
  unfold matchPeerBytes at h
  split at h
  · rename_i r hr
    cases h
    obtain ⟨peer, st, payload, -, hp, hs, hread⟩ := matchPeerLoop_some hr
    exact ⟨peer, st, payload, hp, hs, hread⟩
  · cases h

theorem matchPeer_ok {snow : Snow} {tcp : Incoming} {privateKey : List UInt8}
    {peers : List ResolvedPeer} {r : ℕ × snow.HandshakeState}
    (h : matchPeer snow tcp privateKey peers = .ok r) :
    ∃ message, tcp.message = some message ∧
      matchPeerBytes snow message privateKey peers = .ok r := by
  unfold matchPeer at h
  unfold Incoming.message
  split at h
  · cases h
  · rename_i len tcp' hlen
    split at h
    · cases h
    · rename_i message rest hread
      exact ⟨message, by simp [hread, Except.toOption], h⟩

/-! ## The symbolic reading of `Noise_KK` -/

/-- The responder of the server with `privateKey` accepts a first message only
    with the static key that produced it. `producer` names that key. A message
    that is sent again verbatim has the producer it had. -/
def Snow.AcceptsOnly (snow : Snow) (privateKey : List UInt8)
    (producer : List UInt8 → Option (List UInt8)) : Prop :=
  ∀ publicKey st message payload state, snow.responder privateKey publicKey = .ok st →
    (snow.readMessage st message payload).1 = .ok state → producer message = some publicKey

theorem producer_of_matchPeerBytes {snow : Snow} {message privateKey : List UInt8}
    {producer : List UInt8 → Option (List UInt8)} (hkk : snow.AcceptsOnly privateKey producer)
    {peers : List ResolvedPeer} {index : ℕ} {state : snow.HandshakeState}
    (h : matchPeerBytes snow message privateKey peers = .ok (index, state)) :
    ∃ peer, peers[index]? = some peer ∧ producer message = some peer.publicKey := by
  obtain ⟨peer, st, payload, hp, hs, hread⟩ := matchPeerBytes_ok h
  exact ⟨peer, hp, hkk _ _ _ _ _ hs hread⟩

/-- A symbolic `Noise_KK`: the first message of an initiator is its public key. -/
def Snow.symbolic : Snow where
  HandshakeState := List UInt8
  buildResponder _ remotePublic := .ok remotePublic
  readMessage state message payload :=
    (if message = state then .ok state else .error "decrypt error", payload)

theorem Snow.symbolic_acceptsOnly (privateKey : List UInt8) :
    Snow.symbolic.AcceptsOnly privateKey some := by
  intro publicKey st message payload state hs hr
  cases hs
  simp only [Snow.symbolic] at hr
  split at hr
  · rename_i heq
    rw [heq]
  · cases hr

/-- Each resolved peer is a configured peer with its key decoded. -/
theorem mem_resolvePeers {base64 : Base64} {configs : List PeerConfig} {peers : List ResolvedPeer}
    (h : resolvePeers base64 configs = .ok peers) {p : ResolvedPeer} (hp : p ∈ peers) :
    ∃ c ∈ configs, p.name = c.name ∧ decodePublicKey base64 c.publicKey = .ok p.publicKey ∧
      p.links = c.links.toFinset := by
  induction configs generalizing peers with
  | nil =>
    cases h
    simp at hp
  | cons c configs ih =>
    simp only [resolvePeers] at h
    split at h
    · cases h
    · rename_i publicKey hkey
      cases hrest : resolvePeers base64 configs with
      | error e => simp [hrest, Except.map] at h
      | ok rest =>
        simp only [hrest, Except.map, Except.ok.injEq] at h
        subst h
        rcases List.mem_cons.mp hp with rfl | hp
        · exact ⟨c, by simp, rfl, hkey, rfl⟩
        · obtain ⟨c', hc', hrest'⟩ := ih hrest hp
          exact ⟨c', by simp [hc'], hrest'⟩

end Ghostport.Core
