import Ghostport.Core.Peermatch
import Ghostport.Core.Validation

/-!
# Which peer is matched (`crates/ghostport-core/src/peermatch.rs`)

The candidates are tried in the order of the config, and all of them write into one payload
buffer. A TCP stream arrives in segments, cut anywhere.

Results:
* `matchPeerSegmented_message`: `match_peer` takes the two length bytes and the message off
  the stream, however it is cut, and answers as `match_peer_bytes` does.
* `publicKeys_nodup_of_valid`: the keys of a valid config are pairwise distinct.
* `matchedPeer_identifies`: the matched peer is the one that produced the message, whatever
  the order of the list.
-/

namespace Ghostport.Core

/-! ## A stream in segments -/

/-- What one read of a TCP stream gets at most. A read of no bytes is the end of the stream,
    so a segment is not empty. -/
structure Segment where
  bytes : List UInt8
  nonempty : bytes ≠ []

/-- The segments that arrive, and the error that a read gets after them. -/
structure Segmented where
  segments : List Segment
  fault : String

def Segmented.bytes (tcp : Segmented) : List UInt8 := tcp.segments.flatMap (·.bytes)

/-- The stream without its segmentation. -/
def Segmented.incoming (tcp : Segmented) : Incoming := ⟨tcp.bytes, tcp.fault⟩

/-- The reads of `read_exact`: each fills what is left of the buffer with as much of the next
    segment as fits. -/
def readSegments : ℕ → List Segment → Option (List UInt8 × List Segment)
  | 0, segments => some ([], segments)
  | _ + 1, [] => none
  | len + 1, segment :: segments =>
    if h : segment.bytes.length ≤ len + 1 then
      (readSegments (len + 1 - segment.bytes.length) segments).map fun r =>
        (segment.bytes ++ r.1, r.2)
    else
      some (segment.bytes.take (len + 1),
        ⟨segment.bytes.drop (len + 1), by simp; omega⟩ :: segments)

/-- `read_exact` into a buffer of `len` bytes. -/
def Segmented.readExact (tcp : Segmented) (len : ℕ) : Except String (List UInt8 × Segmented) :=
  match readSegments len tcp.segments with
  | some (bytes, segments) => .ok (bytes, { tcp with segments := segments })
  | none => .error tcp.fault

/-- `read_u16_le`. -/
def Segmented.readU16Le (tcp : Segmented) : Except String (ℕ × Segmented) :=
  (tcp.readExact 2).map fun r => (r.1.foldr (fun b n => b.toNat + 256 * n) 0, r.2)

/-- `match_peer` (lines 62-71), with what is left of the stream. A read that fails has read all
    that arrived. -/
def matchPeerSegmented (snow : Snow) (tcp : Segmented) (privateKey : List UInt8)
    (peers : List ResolvedPeer) : Except MatchError (ℕ × snow.HandshakeState) × Segmented :=
  match tcp.readU16Le with
  | .error e => (.error (.io e), { tcp with segments := [] })
  | .ok (len, tcp) =>
    match tcp.readExact len with
    | .error e => (.error (.io e), { tcp with segments := [] })
    | .ok (message, tcp) => (matchPeerBytes snow message privateKey peers, tcp)

/-! ## Reads do not see the segmentation -/

theorem readSegments_spec (len : ℕ) (segments : List Segment) :
    (readSegments len segments).map (fun r => (r.1, r.2.flatMap (·.bytes))) =
      if len ≤ (segments.flatMap (·.bytes)).length then
        some ((segments.flatMap (·.bytes)).take len, (segments.flatMap (·.bytes)).drop len)
      else none := by
  induction segments generalizing len with
  | nil => cases len <;> simp [readSegments]
  | cons segment segments ih =>
    cases len with
    | zero => simp [readSegments]
    | succ len =>
      rw [readSegments, List.flatMap_cons]
      by_cases h : segment.bytes.length ≤ len + 1
      · have hrest := ih (len + 1 - segment.bytes.length)
        rw [dif_pos h, Option.map_map, List.take_append, List.drop_append, List.length_append,
          List.take_of_length_le h, List.drop_of_length_le h, List.nil_append]
        cases hread : readSegments (len + 1 - segment.bytes.length) segments with
        | none =>
          rw [hread, Option.map_none] at hrest
          rw [Option.map_none]
          split at hrest
          · cases hrest
          · rw [if_neg (by omega)]
        | some r =>
          rw [hread, Option.map_some] at hrest
          split at hrest
          · obtain ⟨htake, hdrop⟩ := Prod.mk.inj (Option.some.inj hrest)
            rw [if_pos (by omega), ← htake, ← hdrop]
            rfl
          · cases hrest
      · have htake : (segment.bytes ++ segments.flatMap (·.bytes)).take (len + 1) =
            segment.bytes.take (len + 1) := List.take_append_of_le_length (by omega)
        have hdrop : (segment.bytes ++ segments.flatMap (·.bytes)).drop (len + 1) =
            segment.bytes.drop (len + 1) ++ segments.flatMap (·.bytes) :=
          List.drop_append_of_le_length (by omega)
        rw [dif_neg h, htake, hdrop, if_pos (by simp; omega)]
        rfl

theorem Segmented.readExact_spec (tcp : Segmented) (len : ℕ) :
    (tcp.readExact len).map (fun r => (r.1, r.2.incoming)) = tcp.incoming.readExact len := by
  have hspec := readSegments_spec len tcp.segments
  unfold Segmented.readExact Incoming.readExact
  change _ = if len ≤ (tcp.segments.flatMap (·.bytes)).length then _ else _
  cases hread : readSegments len tcp.segments with
  | none =>
    rw [hread, Option.map_none] at hspec
    split at hspec
    · cases hspec
    · rw [if_neg (by assumption)]
      rfl
  | some r =>
    rw [hread, Option.map_some] at hspec
    split at hspec
    · obtain ⟨htake, hdrop⟩ := Prod.mk.inj (Option.some.inj hspec)
      rw [if_pos (by assumption)]
      simp only [Except.map, Segmented.incoming, Segmented.bytes, htake, hdrop]
    · cases hspec

theorem Segmented.readU16Le_spec (tcp : Segmented) :
    tcp.readU16Le.map (fun r => (r.1, r.2.incoming)) = tcp.incoming.readU16Le := by
  have hspec := tcp.readExact_spec 2
  unfold Segmented.readU16Le Incoming.readU16Le
  unfold Incoming.readExact at hspec
  cases hread : tcp.readExact 2 with
  | error e =>
    rw [hread] at hspec
    split at hspec
    · cases hspec
    · rename_i hlen
      obtain rfl : e = tcp.incoming.fault := Except.error.inj hspec
      match hbytes : tcp.incoming.bytes with
      | [] | [_] => rfl
      | _ :: _ :: _ => simp [hbytes] at hlen
  | ok r =>
    rw [hread] at hspec
    split at hspec
    · rename_i hlen
      match hbytes : tcp.incoming.bytes with
      | [] | [_] => simp [hbytes] at hlen
      | lo :: hi :: rest =>
        obtain ⟨htake, hdrop⟩ := Prod.mk.inj (Except.ok.inj hspec)
        simp only [hbytes, List.take_succ_cons, List.take_zero, List.drop_succ_cons,
          List.drop_zero] at htake hdrop
        simp [Except.map, htake, hdrop]
    · cases hspec

variable {snow : Snow} {privateKey : List UInt8}

/-- `match_peer` fails to read exactly if no whole message arrives. -/
theorem matchPeer_eq (tcp : Incoming) (peers : List ResolvedPeer) :
    matchPeer snow tcp privateKey peers =
      match tcp.message with
      | some message => matchPeerBytes snow message privateKey peers
      | none => .error (.io tcp.fault) := by
  unfold matchPeer Incoming.message Incoming.readU16Le Incoming.readExact
  match tcp.bytes with
  | [] | [_] => rfl
  | lo :: hi :: rest =>
    simp only
    by_cases hlen : lo.toNat + 256 * hi.toNat ≤ rest.length
    · simp only [if_pos hlen, Except.toOption, Option.map_some]
    · simp only [if_neg hlen, Except.toOption, Option.map_none]

/-- `match_peer` answers the same for every segmentation. -/
theorem matchPeerSegmented_eq (tcp : Segmented) (peers : List ResolvedPeer) :
    (matchPeerSegmented snow tcp privateKey peers).1 =
      matchPeer snow tcp.incoming privateKey peers := by
  have hlen := tcp.readU16Le_spec
  unfold matchPeerSegmented matchPeer
  cases hread : tcp.readU16Le with
  | error e =>
    rw [hread] at hlen
    rw [← hlen]
    rfl
  | ok r =>
    obtain ⟨len, tcp'⟩ := r
    rw [hread] at hlen
    rw [← hlen]
    have hmessage := tcp'.readExact_spec len
    cases hread' : tcp'.readExact len with
    | error e =>
      rw [hread'] at hmessage
      simp only [Except.map, hread', ← hmessage]
    | ok r =>
      rw [hread'] at hmessage
      simp only [Except.map, hread', ← hmessage]

/-- `match_peer` takes the length and the message off the stream, and answers as
    `match_peer_bytes` does for the message. -/
theorem matchPeerSegmented_message {tcp : Segmented} {lo hi : UInt8} {message rest : List UInt8}
    (hbytes : tcp.bytes = lo :: hi :: (message ++ rest))
    (hlen : message.length = lo.toNat + 256 * hi.toNat) (peers : List ResolvedPeer) :
    (matchPeerSegmented snow tcp privateKey peers).1 =
        matchPeerBytes snow message privateKey peers ∧
      (matchPeerSegmented snow tcp privateKey peers).2.bytes = rest := by
  have hu16 := tcp.readU16Le_spec
  unfold Incoming.readU16Le at hu16
  simp only [Segmented.incoming, hbytes] at hu16
  unfold matchPeerSegmented
  cases hread : tcp.readU16Le with
  | error e =>
    rw [hread] at hu16
    cases hu16
  | ok r =>
    obtain ⟨len, tcp'⟩ := r
    rw [hread] at hu16
    obtain ⟨rfl, hrest⟩ := Prod.mk.inj (Except.ok.inj hu16)
    have hmessage := tcp'.readExact_spec (lo.toNat + 256 * hi.toNat)
    have hincoming : tcp'.incoming = ⟨message ++ rest, tcp.fault⟩ := hrest
    rw [hincoming, Incoming.readExact, if_pos (by simp; omega), ← hlen, List.take_left,
      List.drop_left] at hmessage
    cases hread' : tcp'.readExact (lo.toNat + 256 * hi.toNat) with
    | error e =>
      rw [hlen, hread'] at hmessage
      cases hmessage
    | ok r =>
      rw [hlen, hread'] at hmessage
      obtain ⟨htake, hleft⟩ := Prod.mk.inj (Except.ok.inj hmessage)
      simp only [hread', htake, true_and]
      exact congrArg Incoming.bytes hleft

/-! ## The exact reading of `Noise_KK` -/

/-- The responder of the server with `privateKey`, built for a key, accepts a message exactly
    if the holder of that key produced it, where the payload buffer is as long as the message.
    `read_message` writes into the buffer and cannot make it longer or shorter. -/
structure Snow.AcceptsExactly (snow : Snow) (privateKey : List UInt8)
    (producer : List UInt8 → Option (List UInt8)) : Prop where
  payload_length : ∀ state message payload,
    (snow.readMessage state message payload).2.length = payload.length
  accepts_iff : ∀ publicKey message payload, payload.length = message.length →
    ((∃ st state, snow.responder privateKey publicKey = .ok st ∧
      (snow.readMessage st message payload).1 = .ok state) ↔ producer message = some publicKey)

theorem Snow.symbolic_acceptsExactly (privateKey : List UInt8) :
    Snow.symbolic.AcceptsExactly privateKey some := by
  refine ⟨fun _ _ _ => rfl, fun publicKey message payload _ => ?_⟩
  rw [Option.some.injEq]
  constructor
  · rintro ⟨st, state, hs, hread⟩
    exact Option.some.inj (Snow.symbolic_acceptsOnly privateKey _ _ _ _ _ hs hread)
  · rintro rfl
    exact ⟨message, message, rfl, by simp [Snow.symbolic]⟩

/-! ## The peer that is found -/

/-- The peer at the index that `match_peer_bytes` returns. -/
def matchedPeer (snow : Snow) (message privateKey : List UInt8) (peers : List ResolvedPeer) :
    Option ResolvedPeer :=
  match matchPeerBytes snow message privateKey peers with
  | .ok (index, _) => peers[index]?
  | .error _ => none

variable {producer : List UInt8 → Option (List UInt8)}

/-- What failed candidates left in the buffer does not matter: the loop finds the first peer
    whose key produced the message. -/
theorem matchPeerLoop_index (hkk : snow.AcceptsExactly privateKey producer)
    {message payload : List UInt8} (hpayload : payload.length = message.length) (i : ℕ)
    (peers : List ResolvedPeer) :
    (matchPeerLoop snow message privateKey i payload peers).map (fun r => r.1) =
      (peers.findIdx? fun p => producer message = some p.publicKey).map (· + i) := by
  induction peers generalizing i payload with
  | nil => rfl
  | cons peer peers ih =>
    have later : ∀ {payload : List UInt8}, payload.length = message.length →
        producer message ≠ some peer.publicKey →
        (matchPeerLoop snow message privateKey (i + 1) payload peers).map (fun r => r.1) =
          ((peer :: peers).findIdx? fun p => producer message = some p.publicKey).map (· + i) := by
      intro payload hpayload hne
      rw [ih hpayload, List.findIdx?_cons, if_neg (by simpa using hne), Option.map_map]
      exact congrFun (congrArg _ (funext fun k => by simp only [Function.comp]; omega)) _
    have haccepts := hkk.accepts_iff peer.publicKey message payload hpayload
    rw [matchPeerLoop]
    cases hst : snow.responder privateKey peer.publicKey with
    | error e =>
      refine later hpayload fun hproducer => ?_
      obtain ⟨st, state, hok, -⟩ := haccepts.mpr hproducer
      rw [hst] at hok
      cases hok
    | ok st =>
      have hlength := hkk.payload_length st message payload
      simp only
      split
      · rename_i state payload' hread
        have hproducer := haccepts.mp ⟨st, state, hst, by rw [hread]⟩
        simp [List.findIdx?_cons, hproducer]
      · rename_i e payload' hread
        rw [hread] at hlength
        refine later (hlength.trans hpayload) fun hproducer => ?_
        obtain ⟨st', state, hst', hok⟩ := haccepts.mpr hproducer
        obtain rfl : st = st' := Except.ok.inj (hst.symm.trans hst')
        rw [hread] at hok
        cases hok

theorem matchPeerBytes_index (hkk : snow.AcceptsExactly privateKey producer)
    (message : List UInt8) (peers : List ResolvedPeer) :
    (∃ r, matchPeerBytes snow message privateKey peers = .ok r ∧
      peers.findIdx? (fun p => producer message = some p.publicKey) = some r.1) ∨
    (matchPeerBytes snow message privateKey peers = .error .noMatch ∧
      peers.findIdx? (fun p => producer message = some p.publicKey) = none) := by
  have hpayload : (List.replicate message.length (0 : UInt8)).length = message.length := by simp
  have hindex := matchPeerLoop_index hkk hpayload 0 peers
  unfold matchPeerBytes
  cases hloop : matchPeerLoop snow message privateKey 0 (List.replicate message.length 0) peers with
  | none =>
    rw [hloop] at hindex
    exact .inr ⟨rfl, by simpa using hindex.symm⟩
  | some r =>
    rw [hloop] at hindex
    exact .inl ⟨r, rfl, by simpa using hindex.symm⟩

theorem matchedPeer_eq (hkk : snow.AcceptsExactly privateKey producer) (message : List UInt8)
    (peers : List ResolvedPeer) : matchedPeer snow message privateKey peers =
      peers.find? fun p => producer message = some p.publicKey := by
  unfold matchedPeer
  rw [List.find?_eq_bind_findIdx?_getElem?]
  rcases matchPeerBytes_index hkk message peers with ⟨r, hok, hindex⟩ | ⟨hnone, hindex⟩
  · rw [hok, hindex]
    rfl
  · rw [hnone, hindex]
    rfl

/-! ## Results -/

/-- A list with at most one element that meets `p` yields the same one in every order. -/
theorem find?_perm {α : Type*} {p : α → Bool} {l l' : List α} (h : l.Perm l')
    (huniq : ∀ x ∈ l, ∀ y ∈ l, p x → p y → x = y) : l'.find? p = l.find? p := by
  cases hl : l.find? p with
  | none =>
    rw [List.find?_eq_none] at hl ⊢
    exact fun x hx => hl x (h.mem_iff.mpr hx)
  | some x =>
    have hx := List.mem_of_find?_eq_some hl
    have hpx := List.find?_some hl
    cases hl' : l'.find? p with
    | none =>
      rw [List.find?_eq_none] at hl'
      exact absurd hpx (hl' x (h.mem_iff.mp hx))
    | some y =>
      have hy := h.mem_iff.mpr (List.mem_of_find?_eq_some hl')
      rw [huniq x hx y hy hpx (List.find?_some hl')]

theorem publicKeys_resolvePeers {base64 : Base64} {configs : List PeerConfig}
    {peers : List ResolvedPeer} (h : resolvePeers base64 configs = .ok peers) :
    List.Forall₂ (fun c p => IsKey base64 c.publicKey p.publicKey) configs peers := by
  induction configs generalizing peers with
  | nil =>
    cases h
    exact .nil
  | cons c configs ih =>
    rw [resolvePeers] at h
    split at h
    · cases h
    · rename_i key hkey
      cases hrest : resolvePeers base64 configs with
      | error e => simp [hrest, Except.map] at h
      | ok rest =>
        simp only [hrest, Except.map, Except.ok.injEq] at h
        subst h
        exact .cons (decodePublicKey_eq_ok.mp hkey) (ih hrest)

/-- The peers of a valid server config are resolved to pairwise distinct keys. -/
theorem publicKeys_nodup_of_valid {c : Config} {base64 : Base64} (hvalid : c.validate base64 = [])
    (hrole : c.role = .server) {peers : List ResolvedPeer}
    (h : resolvePeers base64 c.peers = .ok peers) : (peers.map (·.publicKey)).Nodup := by
  have hdistinct := ((Config.validate_eq_nil_iff.mp hvalid).server hrole).peers.distinct
  have hkeys := publicKeys_resolvePeers h
  generalize c.peers = configs at hdistinct hkeys
  clear h
  induction hkeys with
  | nil => simp
  | @cons c p configs peers hkey hrest ih =>
    obtain ⟨hfirst, hothers⟩ := List.pairwise_cons.mp hdistinct
    rw [List.map_cons, List.nodup_cons]
    refine ⟨fun hmem => ?_, ih hothers⟩
    obtain ⟨q, hq, heq⟩ := List.mem_map.mp hmem
    obtain ⟨d, hd, hdkey⟩ : ∃ d ∈ configs, IsKey base64 d.publicKey q.publicKey := by
      clear ih hothers hfirst hmem hdistinct
      induction hrest with
      | nil => simp at hq
      | cons hkey' _ ih =>
        rcases List.mem_cons.mp hq with rfl | hq
        · exact ⟨_, by simp, hkey'⟩
        · obtain ⟨d, hd, hdkey⟩ := ih hq
          exact ⟨d, by simp [hd], hdkey⟩
    rw [heq] at hdkey
    exact hfirst d hd p.publicKey hkey hdkey

/-- The matched peer is the one whose key produced the message, in every order of the list, and
    there is no match if there is no such peer. `match_peer` answers the same for every
    segmentation of a stream, and takes just the message with its length if one arrives. -/
theorem matchedPeer_identifies (hkk : snow.AcceptsExactly privateKey producer)
    {peers : List ResolvedPeer} (hkeys : (peers.map (·.publicKey)).Nodup) (message : List UInt8) :
    (∀ peer, matchedPeer snow message privateKey peers = some peer ↔
      peer ∈ peers ∧ producer message = some peer.publicKey) ∧
    (matchPeerBytes snow message privateKey peers = .error .noMatch ↔
      ∀ peer ∈ peers, producer message ≠ some peer.publicKey) ∧
    (∀ peers', peers.Perm peers' → matchedPeer snow message privateKey peers' =
      matchedPeer snow message privateKey peers) ∧
    ∀ tcp : Segmented,
      (matchPeerSegmented snow tcp privateKey peers).1 =
        matchPeer snow tcp.incoming privateKey peers ∧
      ∀ lo hi rest, tcp.bytes = lo :: hi :: (message ++ rest) →
        message.length = lo.toNat + 256 * hi.toNat →
        (matchPeerSegmented snow tcp privateKey peers).1 =
            matchPeerBytes snow message privateKey peers ∧
          (matchPeerSegmented snow tcp privateKey peers).2.bytes = rest := by
  have huniq : ∀ p ∈ peers, ∀ q ∈ peers, producer message = some p.publicKey →
      producer message = some q.publicKey → p = q := by
    intro p hp q hq hproducer hproducer'
    exact List.inj_on_of_nodup_map hkeys hp hq (Option.some.inj (hproducer.symm.trans hproducer'))
  have hfind : ∀ peer, matchedPeer snow message privateKey peers = some peer ↔
      peer ∈ peers ∧ producer message = some peer.publicKey := by
    intro peer
    rw [matchedPeer_eq hkk]
    constructor
    · intro h
      exact ⟨List.mem_of_find?_eq_some h, by simpa using List.find?_some h⟩
    · rintro ⟨hmem, hproducer⟩
      cases hfound : peers.find? fun p => producer message = some p.publicKey with
      | none =>
        rw [List.find?_eq_none] at hfound
        exact absurd hproducer (by simpa using hfound peer hmem)
      | some q =>
        have hq : producer message = some q.publicKey := by simpa using List.find?_some hfound
        rw [huniq q (List.mem_of_find?_eq_some hfound) peer hmem hq hproducer]
  refine ⟨hfind, ?_, fun peers' hperm => ?_, fun tcp => ⟨matchPeerSegmented_eq tcp peers,
    fun lo hi rest hbytes hlen => matchPeerSegmented_message hbytes hlen peers⟩⟩
  · rcases matchPeerBytes_index hkk message peers with ⟨r, hok, hindex⟩ | ⟨hnone, hindex⟩
    · obtain ⟨hlt, hproducer, -⟩ := List.findIdx?_eq_some_iff_getElem.mp hindex
      simp only [hok, reduceCtorEq, false_iff, not_forall]
      exact ⟨peers[r.1], List.getElem_mem hlt, not_not.mpr (by simpa using hproducer)⟩
    · rw [List.findIdx?_eq_none_iff] at hindex
      simpa [hnone] using hindex
  · rw [matchedPeer_eq hkk, matchedPeer_eq hkk]
    refine find?_perm hperm fun p hp q hq hp' hq' => huniq p hp q hq ?_ ?_
    · simpa using hp'
    · simpa using hq'

theorem matchedPeer_identifies_symbolic :
    let laptop : ResolvedPeer := ⟨"laptop", List.replicate 32 1, {"ssh"}⟩
    let phone : ResolvedPeer := ⟨"phone", List.replicate 32 2, ∅⟩
    matchedPeer .symbolic (List.replicate 32 2) [7] [laptop, phone] = some phone ∧
      matchedPeer .symbolic (List.replicate 32 2) [7] [phone, laptop] = some phone := by
  intro laptop phone
  have hkeys : ([laptop, phone].map (·.publicKey)).Nodup := by decide
  obtain ⟨hfind, -, hperm, -⟩ :=
    matchedPeer_identifies (Snow.symbolic_acceptsExactly [7]) hkeys (List.replicate 32 2)
  have hphone : matchedPeer .symbolic (List.replicate 32 2) [7] [laptop, phone] = some phone :=
    (hfind phone).mpr ⟨by simp, rfl⟩
  exact ⟨hphone, (hperm _ (List.Perm.swap phone laptop [])).trans hphone⟩

end Ghostport.Core
