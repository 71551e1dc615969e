import Mathlib.Data.List.Pairwise
import Ghostport.Core.Config

/-!
# What `Config::validate` accepts (`crates/ghostport-core/src/config.rs`)

The docs of the fields say to which role each of them belongs; `validate` asks for each
field of the other role but one, the UDP address.

Results:
* `validate_eq_nil_iff`: the accepted configs, as a list of rules.
* `validate_iff_documented_iff`: `validate` accepts a config exactly if the docs do, where
  the other role's UDP address is absent or another rule is broken.
-/

namespace Ghostport.Core

open Ghostport.Net

/-! ## The documented rules -/

/-- A text that decodes to the 32 bytes `key`. -/
def IsKey (base64 : Base64) (s : String) (key : List UInt8) : Prop :=
  base64.decode (trim s.toList) = .ok key ∧ key.length = 32

/-- A field that is set to a `host:port` address. -/
def IsAddress (field : Option String) : Prop :=
  ∃ s addr, field = some s ∧ SocketAddr.parse s.toList = some addr

namespace Config

/-- The matrix (role, mode) → field. -/
def LinkFields (c : Config) (l : LinkConfig) : Prop :=
  match c.role, l.mode with
  | .client, .forward => IsAddress l.listen ∧ l.target = none
  | .client, .reverse => IsAddress l.target ∧ l.listen = none
  | .server, .forward => IsAddress l.target ∧ l.listen = none
  | .server, .reverse => IsAddress l.listen ∧ l.target = none

/-- The UDP address that belongs to the role of the config. -/
def ownUdpAddr (c : Config) : Option String :=
  match c.role with
  | .server => c.listenUdp
  | .client => c.serverUdpAddr

/-- The UDP address that belongs to the other role. -/
def otherUdpAddr (c : Config) : Option String :=
  match c.role with
  | .server => c.serverUdpAddr
  | .client => c.listenUdp

/-- The rules for the links, of both roles. -/
structure LinkRules (c : Config) : Prop where
  ids : (c.links.map (·.id)).Nodup
  fields : ∀ l ∈ c.links, c.LinkFields l
  noReverseUdp : ∀ l ∈ c.links, ¬ (l.mode = .reverse ∧ l.transport = .udp)
  ownUdpAddr : c.ownUdpAddr.isSome ↔ ∃ l ∈ c.links, l.transport = .udp

/-- The rules for the peers of a server. -/
structure PeerRules (c : Config) (base64 : Base64) : Prop where
  nonempty : c.peers ≠ []
  names : (c.peers.map (·.name)).Nodup
  keys : ∀ p ∈ c.peers, ∃ key, IsKey base64 p.publicKey key
  distinct : c.peers.Pairwise fun p q => ∀ key, IsKey base64 p.publicKey key →
    ¬ IsKey base64 q.publicKey key
  links : ∀ p ∈ c.peers, ∀ id ∈ p.links, ∃ l ∈ c.links, l.id = id

/-- The rules for the fields of a server, but for `server_udp_addr`. -/
structure ServerRules (c : Config) (base64 : Base64) : Prop where
  listenControl : c.listenControl.isSome
  listenData : c.listenData.isSome
  serverControlAddr : c.serverControlAddr = none
  serverDataAddr : c.serverDataAddr = none
  peerPublicKey : c.peerPublicKey = none
  peers : c.PeerRules base64

/-- The rules for the fields of a client, but for `listen_udp`. -/
structure ClientRules (c : Config) (base64 : Base64) : Prop where
  serverControlAddr : c.serverControlAddr.isSome
  serverDataAddr : c.serverDataAddr.isSome
  peerPublicKey : ∃ s key, c.peerPublicKey = some s ∧ IsKey base64 s key
  listenControl : c.listenControl = none
  listenData : c.listenData = none
  peers : c.peers = []

/-- The documented rules, but for the other role's UDP address. -/
structure Rules (c : Config) (base64 : Base64) : Prop where
  server : c.role = .server → c.ServerRules base64
  client : c.role = .client → c.ClientRules base64
  links : c.LinkRules

/-- The configs that the docs of the fields describe. -/
structure Documented (c : Config) (base64 : Base64) : Prop extends c.Rules base64 where
  otherUdpAddr : c.otherUdpAddr = none

end Config

/-! ## Each check and its rule -/

theorem requireAbsent_eq_nil {field because : String} {value : Option String} :
    requireAbsent field value because = [] ↔ value = none := by
  cases value <;> simp [requireAbsent]

theorem decodePublicKey_eq_ok {base64 : Base64} {s : String} {key : List UInt8} :
    decodePublicKey base64 s = .ok key ↔ IsKey base64 s key := by
  unfold decodePublicKey IsKey
  cases base64.decode (trim s.toList) with
  | error e => simp
  | ok bytes =>
    by_cases hlen : bytes.length = 32
    · simp only [hlen, ne_eq, not_true_eq_false, if_false, Except.ok.injEq]
      constructor
      · rintro rfl
        exact ⟨rfl, hlen⟩
      · exact fun h => h.1
    · simp only [ne_eq, hlen, not_false_eq_true, if_true, reduceCtorEq, Except.ok.injEq, false_iff,
        not_and]
      rintro rfl
      exact hlen

theorem decodePublicKey_eq_error {base64 : Base64} {s e : String}
    (h : decodePublicKey base64 s = .error e) (key : List UInt8) : ¬ IsKey base64 s key := by
  intro hkey
  rw [decodePublicKey_eq_ok.mpr hkey] at h
  cases h

namespace Config

variable {c : Config} {base64 : Base64}

theorem validateLink_eq_nil {l : LinkConfig} : c.validateLink l = [] ↔ c.LinkFields l := by
  have address : ∀ (required forbidden : Option String),
      ((required.isNone = false ∧ forbidden.isSome = false) ∧
        ∀ s, required = some s → (SocketAddr.parse s.toList).isNone = false) ↔
      IsAddress required ∧ forbidden = none := by
    intro required forbidden
    unfold IsAddress
    cases required with
    | none => simp
    | some s =>
      simp only [Option.isNone_some, true_and, Option.some.injEq, forall_eq', exists_and_left,
        exists_eq_left', Option.isSome_eq_false_iff, Option.isNone_iff_eq_none,
        Option.isNone_eq_false_iff, ← Option.isSome_iff_exists]
      exact and_comm
  have hvalidate : c.validateLink l = [] ↔
      (((if c.linkNeedsListen l.mode then l.listen else l.target).isNone = false ∧
        (if c.linkNeedsListen l.mode then l.target else l.listen).isSome = false) ∧
        ∀ s, (if c.linkNeedsListen l.mode then l.listen else l.target) = some s →
          (SocketAddr.parse s.toList).isNone = false) := by
    unfold validateLink
    simp only [List.append_eq_nil_iff, ite_eq_right_iff, List.cons_ne_nil, imp_false,
      Bool.not_eq_true]
    refine and_congr_right fun _ => ?_
    split
    · rename_i hnone
      simp [hnone]
    · rename_i s hsome
      simp [hsome, Option.isSome_iff_ne_none]
  rw [hvalidate, address]
  unfold LinkFields linkNeedsListen
  cases c.role <;> cases l.mode <;> simp

theorem validatePeersLoop_eq_nil {seenNames : List String} {seenKeys : List (List UInt8)}
    {peers : List PeerConfig} :
    c.validatePeersLoop base64 seenNames seenKeys peers = [] ↔
      ((peers.map (·.name)).Nodup ∧ ∀ p ∈ peers, p.name ∉ seenNames) ∧
      (∀ p ∈ peers, ∃ key, IsKey base64 p.publicKey key ∧ key ∉ seenKeys) ∧
      (peers.Pairwise fun p q => ∀ key, IsKey base64 p.publicKey key →
        ¬ IsKey base64 q.publicKey key) ∧
      ∀ p ∈ peers, ∀ id ∈ p.links, ∃ l ∈ c.links, l.id = id := by
  induction peers generalizing seenNames seenKeys with
  | nil => simp [validatePeersLoop]
  | cons peer peers ih =>
    have hlinks : ((peer.links.filter fun id => id ∉ c.links.map (·.id)).map fun id =>
        "peer \"" ++ peer.name ++ "\": " ++ "link id \"" ++ id ++
          "\" is not defined in this config's `links`") = [] ↔
        ∀ id ∈ peer.links, ∃ l ∈ c.links, l.id = id := by
      simp
    simp only [validatePeersLoop, List.append_eq_nil_iff, ite_eq_right_iff, List.cons_ne_nil,
      imp_false, List.map_cons, List.nodup_cons, List.forall_mem_cons, List.pairwise_cons]
    cases hkey : decodePublicKey base64 peer.publicKey with
    | error e =>
      simp only [List.append_eq_nil_iff, List.cons_ne_nil, false_and, and_false, false_iff]
      rintro ⟨-, ⟨⟨key, hdecodes, -⟩, -⟩, -⟩
      exact absurd hdecodes (decodePublicKey_eq_error hkey key)
    | ok key =>
      have hdecodes := decodePublicKey_eq_ok.mp hkey
      have huniq : ∀ key', IsKey base64 peer.publicKey key' ↔ key' = key := by
        intro key'
        rw [← decodePublicKey_eq_ok, hkey]
        exact ⟨fun h => (Except.ok.inj h).symm, fun h => by rw [h]⟩
      simp only [List.append_eq_nil_iff, ite_eq_right_iff, List.cons_ne_nil, imp_false, ih, hlinks,
        huniq]
      simp only [List.mem_map, List.mem_cons, not_or, not_exists, not_and]
      constructor
      · rintro ⟨hname, ⟨hfresh, hpeer⟩, ⟨hnodup, hnames⟩, hkeys, hpairs, hrest⟩
        refine ⟨⟨⟨fun p hp => (hnames p hp).1, hnodup⟩, hname, fun p hp => (hnames p hp).2⟩,
          ⟨⟨key, rfl, hfresh⟩, fun p hp => ?_⟩, ⟨fun p hp key' heq hp' => ?_, hpairs⟩,
          hpeer, hrest⟩
        · obtain ⟨k, hk, -, hseen⟩ := hkeys p hp
          exact ⟨k, hk, hseen⟩
        · obtain ⟨k, hk, hne, -⟩ := hkeys p hp
          subst heq
          exact hne (Except.ok.inj (((decodePublicKey_eq_ok.mpr hk).symm.trans
            (decodePublicKey_eq_ok.mpr hp'))))
      · rintro ⟨⟨⟨hother, hnodup⟩, hname, hnames⟩, ⟨⟨k, rfl, hfresh⟩, hkeys⟩,
          ⟨hnew, hpairs⟩, hpeer, hrest⟩
        refine ⟨hname, ⟨hfresh, hpeer⟩, ⟨hnodup, fun p hp => ⟨hother p hp, hnames p hp⟩⟩,
          fun p hp => ?_, hpairs, hrest⟩
        obtain ⟨k', hk', hseen⟩ := hkeys p hp
        refine ⟨k', hk', ?_, hseen⟩
        rintro rfl
        exact hnew p hp _ rfl hk'

theorem validatePeers_eq_nil : c.peers ≠ [] ∧ c.validatePeers base64 = [] ↔ c.PeerRules base64 := by
  unfold validatePeers
  rw [validatePeersLoop_eq_nil]
  constructor
  · rintro ⟨hne, ⟨hnames, -⟩, hkeys, hdistinct, hlinks⟩
    refine ⟨hne, hnames, fun p hp => ?_, hdistinct, hlinks⟩
    obtain ⟨key, hkey, -⟩ := hkeys p hp
    exact ⟨key, hkey⟩
  · intro h
    refine ⟨h.nonempty, ⟨h.names, by simp⟩, fun p hp => ?_, h.distinct, h.links⟩
    obtain ⟨key, hkey⟩ := h.keys p hp
    exact ⟨key, hkey, by simp⟩

theorem anyUdpLink_eq_true : c.anyUdpLink = true ↔ ∃ l ∈ c.links, l.transport = .udp := by
  simp [anyUdpLink, List.any_eq_true]

theorem validateUdp_eq_nil : c.validateUdp = [] ↔
    (∀ l ∈ c.links, ¬ (l.mode = .reverse ∧ l.transport = .udp)) ∧
      (c.ownUdpAddr.isSome ↔ ∃ l ∈ c.links, l.transport = .udp) := by
  have hreverse : (c.links.filter fun link => link.transport = .udp ∧ link.mode = .reverse) = [] ↔
      ∀ l ∈ c.links, ¬ (l.mode = .reverse ∧ l.transport = .udp) := by
    simp only [List.filter_eq_nil_iff, decide_eq_true_eq]
    exact forall₂_congr fun l _ => by rw [and_comm]
  have haddr : ∀ (field because because' : String) (value : Option String),
      (if c.anyUdpLink then requirePresent field value because
        else requireAbsent field value because') = [] ↔
      (value.isSome ↔ ∃ l ∈ c.links, l.transport = .udp) := by
    intro field because because' value
    rw [← anyUdpLink_eq_true]
    cases c.anyUdpLink <;> simp [requireAbsent_eq_nil]
  unfold validateUdp ownUdpAddr
  rw [List.append_eq_nil_iff, List.map_eq_nil_iff, hreverse]
  cases c.role <;> exact and_congr_right fun _ => haddr _ _ _ _

theorem links_eq_nil :
    c.validateLinks [] c.links = [] ∧ c.validateUdp = [] ↔ c.LinkRules := by
  rw [validateLinks_eq_nil, validateUdp_eq_nil]
  constructor
  · rintro ⟨⟨hids, -, hfields⟩, hreverse, haddr⟩
    exact ⟨hids, fun l hl => validateLink_eq_nil.mp (hfields l hl), hreverse, haddr⟩
  · intro h
    exact ⟨⟨h.ids, by simp, fun l hl => validateLink_eq_nil.mpr (h.fields l hl)⟩, h.noReverseUdp,
      h.ownUdpAddr⟩

theorem validateRole_server (hrole : c.role = .server) :
    c.validateRole base64 = [] ↔ c.ServerRules base64 := by
  simp only [validateRole, hrole, List.append_eq_nil_iff, requirePresent_eq_nil,
    requireAbsent_eq_nil, ite_eq_right_iff, List.cons_ne_nil, imp_false, Bool.not_eq_true,
    Option.isSome_eq_false_iff, Option.isNone_iff_eq_none, List.isEmpty_eq_false_iff]
  constructor
  · rintro ⟨⟨⟨⟨⟨⟨hcontrol, hdata⟩, hcontrolAddr⟩, hdataAddr⟩, hkey⟩, hne⟩, hpeers⟩
    exact ⟨hcontrol, hdata, hcontrolAddr, hdataAddr, hkey, validatePeers_eq_nil.mp ⟨hne, hpeers⟩⟩
  · intro h
    obtain ⟨hne, hpeers⟩ := validatePeers_eq_nil.mpr h.peers
    exact ⟨⟨⟨⟨⟨⟨h.listenControl, h.listenData⟩, h.serverControlAddr⟩, h.serverDataAddr⟩,
      h.peerPublicKey⟩, hne⟩, hpeers⟩

theorem validateRole_client (hrole : c.role = .client) :
    c.validateRole base64 = [] ↔ c.ClientRules base64 := by
  simp only [validateRole, hrole, List.append_eq_nil_iff, requirePresent_eq_nil,
    requireAbsent_eq_nil, ite_eq_left_iff, List.cons_ne_nil, imp_false, not_not,
    List.isEmpty_iff]
  cases hfield : c.peerPublicKey with
  | none =>
    simp only [List.cons_ne_nil, and_false, false_and, false_iff]
    intro h
    obtain ⟨s, key, hs, -⟩ := h.peerPublicKey
    rw [hfield] at hs
    cases hs
  | some s =>
    cases hdecode : decodePublicKey base64 s with
    | error e =>
      simp only [hdecode, List.cons_ne_nil, and_false, false_and, false_iff]
      intro h
      obtain ⟨s', key, hs, hkey⟩ := h.peerPublicKey
      obtain rfl := Option.some.inj (hfield.symm.trans hs)
      exact decodePublicKey_eq_error hdecode key hkey
    | ok key =>
      simp only [hdecode, and_true]
      constructor
      · rintro ⟨⟨⟨⟨hcontrol, hdata⟩, hlistenControl⟩, hlistenData⟩, hpeers⟩
        exact ⟨hcontrol, hdata, ⟨s, key, hfield, decodePublicKey_eq_ok.mp hdecode⟩,
          hlistenControl, hlistenData, hpeers⟩
      · intro h
        exact ⟨⟨⟨⟨h.serverControlAddr, h.serverDataAddr⟩, h.listenControl⟩, h.listenData⟩, h.peers⟩

/-! ## Results -/

/-- `validate` accepts exactly the configs that meet the rules, whatever the other role's UDP
    address. -/
theorem validate_eq_nil_iff : c.validate base64 = [] ↔ c.Rules base64 := by
  rw [validate_eq_nil, links_eq_nil]
  constructor
  · rintro ⟨hrole, hlinks⟩
    exact ⟨fun h => (validateRole_server h).mp hrole, fun h => (validateRole_client h).mp hrole,
      hlinks⟩
  · intro h
    refine ⟨?_, h.links⟩
    cases hrole : c.role with
    | server => exact (validateRole_server hrole).mpr (h.server hrole)
    | client => exact (validateRole_client hrole).mpr (h.client hrole)

/-- `validate` agrees with the docs on a config exactly if the other role's UDP address is
    absent or the config breaks another rule. -/
theorem validate_iff_documented_iff (c : Config) (base64 : Base64) :
    (c.validate base64 = [] ↔ c.Documented base64) ↔
      c.otherUdpAddr = none ∨ ¬ c.Rules base64 := by
  rw [validate_eq_nil_iff]
  constructor
  · intro h
    by_cases hrules : c.Rules base64
    · exact .inl (h.mp hrules).otherUdpAddr
    · exact .inr hrules
  · rintro (hnone | hnot)
    · exact ⟨fun h => ⟨h, hnone⟩, fun h => h.toRules⟩
    · exact ⟨fun h => absurd h hnot, fun h => absurd h.toRules hnot⟩

/-- A server whose config also has the address that a client dials. -/
def bothUdpAddrs : Config where
  role := .server
  privateKeyPath := "/etc/ghostport/server.key"
  peerPublicKey := none
  peers := [⟨"laptop", "AAAAAAAAAAAAAAAAAAAAAAAAAAAAAAAAAAAAAAAAAAA=", []⟩]
  listenControl := some "0.0.0.0:7000"
  listenData := some "0.0.0.0:7001"
  listenUdp := none
  serverControlAddr := none
  serverDataAddr := none
  serverUdpAddr := some "203.0.113.5:7002"
  links := []

theorem bothUdpAddrs_accepted :
    bothUdpAddrs.validate .standard = [] ∧ ¬ bothUdpAddrs.Documented .standard := by
  refine ⟨by decide +kernel, fun h => ?_⟩
  have hnone := h.otherUdpAddr
  cases hnone

end Config

end Ghostport.Core
