import Mathlib.Data.List.Nodup
import Ghostport.Core.Keys
import Ghostport.Net.Addr

/-!
# The config and its validation (`crates/ghostport-core/src/config.rs`)

`Config.validate` returns the list of all problems found, in the order and with
the texts of the source; a config is valid if the list is empty.
-/

namespace Ghostport.Core

open Ghostport.Net

/-! ## Model -/

inductive Role where
  | server
  | client
  deriving DecidableEq, Repr

inductive LinkMode where
  | forward
  | reverse
  deriving DecidableEq, Repr

inductive Transport where
  | tcp
  | udp
  deriving DecidableEq, Repr

/-- `{:?}`. -/
def Role.debug : Role → String
  | .server => "Server"
  | .client => "Client"

/-- `{:?}`. -/
def LinkMode.debug : LinkMode → String
  | .forward => "Forward"
  | .reverse => "Reverse"

structure PeerConfig where
  name : String
  publicKey : String
  links : List String
  deriving DecidableEq, Repr

structure LinkConfig where
  id : String
  mode : LinkMode
  transport : Transport
  listen : Option String
  target : Option String
  deriving DecidableEq, Repr

structure Config where
  role : Role
  privateKeyPath : String
  peerPublicKey : Option String
  peers : List PeerConfig
  listenControl : Option String
  listenData : Option String
  listenUdp : Option String
  serverControlAddr : Option String
  serverDataAddr : Option String
  serverUdpAddr : Option String
  links : List LinkConfig
  deriving DecidableEq, Repr

/-- `require_present` (lines 411-415). -/
def requirePresent (field : String) (value : Option String) (because : String) : List String :=
  if value.isNone then ["`" ++ field ++ "` is required when " ++ because] else []

@[simp] theorem requirePresent_eq_nil {field because : String} {value : Option String} :
    requirePresent field value because = [] ↔ value.isSome := by
  cases value <;> simp [requirePresent]

/-- `require_absent` (lines 417-421). -/
def requireAbsent (field : String) (value : Option String) (because : String) : List String :=
  if value.isSome then ["`" ++ field ++ "` must not be set when " ++ because] else []

namespace Config

/-- `link_needs_listen` (lines 187-192). -/
def linkNeedsListen (c : Config) (mode : LinkMode) : Bool :=
  match c.role, mode with
  | .client, .forward => true
  | .server, .reverse => true
  | _, _ => false

/-- `validate_link` (lines 383-408). -/
def validateLink (c : Config) (link : LinkConfig) : List String :=
  let needsListen := c.linkNeedsListen link.mode
  let requiredField := if needsListen then "listen" else "target"
  let forbiddenField := if needsListen then "target" else "listen"
  let requiredValue := if needsListen then link.listen else link.target
  let forbiddenValue := if needsListen then link.target else link.listen
  let side := "link \"" ++ link.id ++ "\": " ++ link.mode.debug ++ " on this side (" ++
    c.role.debug ++ ")"
  (if requiredValue.isNone then [side ++ " requires `" ++ requiredField ++ "`"] else []) ++
  (if forbiddenValue.isSome then
    [side ++ " must not set `" ++ forbiddenField ++ "` (that belongs on the peer's config)"]
  else []) ++
  match requiredValue with
  | none => []
  | some addr =>
    if (SocketAddr.parse addr.toList).isNone then
      ["link \"" ++ link.id ++ "\": `" ++ requiredField ++ "` = \"" ++ addr ++
        "\" is not a valid host:port address"]
    else []

/-- The loop of `validate` over the links (lines 279-285), with the ids seen. -/
def validateLinks (c : Config) : List String → List LinkConfig → List String
  | _, [] => []
  | seenIds, link :: links =>
    (if link.id ∈ seenIds then ["link \"" ++ link.id ++ "\": duplicate id"] else []) ++
      c.validateLink link ++ c.validateLinks (link.id :: seenIds) links

/-- Whether any link needs the shared UDP channel (line 305). -/
def anyUdpLink (c : Config) : Bool := c.links.any fun l => l.transport = .udp

/-- `validate_udp` (lines 295-343). -/
def validateUdp (c : Config) : List String :=
  (c.links.filter fun link => link.transport = .udp ∧ link.mode = .reverse).map
    (fun link => "link \"" ++ link.id ++ "\": reverse-mode UDP links aren't supported yet") ++
  match c.role with
  | .server =>
    if c.anyUdpLink then
      requirePresent "listen_udp" c.listenUdp "a link uses transport = \"udp\""
    else requireAbsent "listen_udp" c.listenUdp "no link uses transport = \"udp\""
  | .client =>
    if c.anyUdpLink then
      requirePresent "server_udp_addr" c.serverUdpAddr "a link uses transport = \"udp\""
    else requireAbsent "server_udp_addr" c.serverUdpAddr "no link uses transport = \"udp\""

/-- The loop of `validate_peers` (lines 353-376), with the names and keys seen. -/
def validatePeersLoop (c : Config) (base64 : Base64) :
    List String → List (List UInt8) → List PeerConfig → List String
  | _, _, [] => []
  | seenNames, seenKeys, peer :: peers =>
    let label := "peer \"" ++ peer.name ++ "\": "
    let linkErrors := (peer.links.filter fun id => id ∉ c.links.map (·.id)).map fun id =>
      label ++ "link id \"" ++ id ++ "\" is not defined in this config's `links`"
    (if peer.name ∈ seenNames then [label ++ "duplicate name"] else []) ++
    match decodePublicKey base64 peer.publicKey with
    | .ok key =>
      (if key ∈ seenKeys then [label ++ "public_key is already used by another peer"] else []) ++
        linkErrors ++ c.validatePeersLoop base64 (peer.name :: seenNames) (key :: seenKeys) peers
    | .error _ =>
      [label ++ "public_key is not a valid base64-encoded 32-byte key"] ++
        linkErrors ++ c.validatePeersLoop base64 (peer.name :: seenNames) seenKeys peers

/-- `validate_peers` (lines 347-377). -/
def validatePeers (c : Config) (base64 : Base64) : List String :=
  c.validatePeersLoop base64 [] [] c.peers

/-- The part of `validate` that depends on the role (lines 200-277). -/
def validateRole (c : Config) (base64 : Base64) : List String :=
  match c.role with
  | .server =>
    requirePresent "listen_control" c.listenControl "role = \"server\"" ++
    requirePresent "listen_data" c.listenData "role = \"server\"" ++
    requireAbsent "server_control_addr" c.serverControlAddr "role = \"server\"" ++
    requireAbsent "server_data_addr" c.serverDataAddr "role = \"server\"" ++
    (if c.peerPublicKey.isSome then
      ["`peer_public_key` must not be set when role = \"server\" (use `peers` instead)"]
    else []) ++
    (if c.peers.isEmpty then
      ["`peers` must have at least one entry when role = \"server\""]
    else []) ++
    c.validatePeers base64
  | .client =>
    requirePresent "server_control_addr" c.serverControlAddr "role = \"client\"" ++
    requirePresent "server_data_addr" c.serverDataAddr "role = \"client\"" ++
    requireAbsent "listen_control" c.listenControl "role = \"client\"" ++
    requireAbsent "listen_data" c.listenData "role = \"client\"" ++
    (match c.peerPublicKey with
    | none => ["`peer_public_key` is required when role = \"client\""]
    | some key =>
      match decodePublicKey base64 key with
      | .ok _ => []
      | .error _ => ["peer_public_key is not a valid base64-encoded 32-byte key"]) ++
    (if c.peers.isEmpty then []
    else ["`peers` must not be set when role = \"client\" (use `peer_public_key` instead)"])

/-- `Config::validate` (lines 197-290). -/
def validate (c : Config) (base64 : Base64) : List String :=
  c.validateRole base64 ++ c.validateLinks [] c.links ++ c.validateUdp

/-! ## What a valid config satisfies -/

theorem validate_eq_nil {c : Config} {base64 : Base64} :
    c.validate base64 = [] ↔
      c.validateRole base64 = [] ∧ c.validateLinks [] c.links = [] ∧ c.validateUdp = [] := by
  simp [validate]

theorem validateLinks_eq_nil {c : Config} {seen : List String} {links : List LinkConfig} :
    c.validateLinks seen links = [] ↔
      (links.map (·.id)).Nodup ∧ (∀ l ∈ links, l.id ∉ seen) ∧
        ∀ l ∈ links, c.validateLink l = [] := by
  induction links generalizing seen with
  | nil => simp [validateLinks]
  | cons link links ih =>
    simp only [validateLinks, List.append_eq_nil_iff, ite_eq_right_iff, List.cons_ne_nil,
      imp_false, ih, List.map_cons, List.nodup_cons, List.mem_map, List.mem_cons, forall_eq_or_imp,
      not_or, not_exists, not_and]
    constructor
    · rintro ⟨⟨h1, h2⟩, h3, h4, h5⟩
      exact ⟨⟨fun l hl => (h4 l hl).1, h3⟩, ⟨h1, fun l hl => (h4 l hl).2⟩, h2, h5⟩
    · rintro ⟨⟨h1, h3⟩, ⟨h2, h4⟩, h5, h6⟩
      exact ⟨⟨h2, h5⟩, h3, fun l hl => ⟨h1 l hl, h4 l hl⟩, h6⟩

/-- In a valid config the ids of the links are pairwise distinct. -/
theorem ids_nodup {c : Config} {base64 : Base64} (h : c.validate base64 = []) :
    (c.links.map (·.id)).Nodup :=
  (validateLinks_eq_nil.mp (validate_eq_nil.mp h).2.1).1

/-- Two links of a valid config with the same id are the same link. -/
theorem link_eq_of_id_eq {c : Config} {base64 : Base64} (h : c.validate base64 = [])
    {l l' : LinkConfig} (hl : l ∈ c.links) (hl' : l' ∈ c.links) (hid : l.id = l'.id) : l = l' :=
  List.inj_on_of_nodup_map (ids_nodup h) hl hl' hid

theorem validateLink_of_valid {c : Config} {base64 : Base64} (h : c.validate base64 = [])
    {l : LinkConfig} (hl : l ∈ c.links) : c.validateLink l = [] :=
  (validateLinks_eq_nil.mp (validate_eq_nil.mp h).2.1).2.2 l hl

/-- A link that passes `validate_link` has the field its side and mode require,
    and not the other. -/
theorem fields_of_validateLink {c : Config} {l : LinkConfig} (h : c.validateLink l = []) :
    if c.linkNeedsListen l.mode then l.listen.isSome ∧ l.target = none
    else l.target.isSome ∧ l.listen = none := by
  simp only [validateLink, List.append_eq_nil_iff, ite_eq_right_iff, List.cons_ne_nil,
    imp_false] at h
  obtain ⟨⟨h1, h2⟩, -⟩ := h
  split at h1 <;> simp_all [Option.isSome_iff_ne_none]

theorem listen_of_valid {c : Config} {base64 : Base64} (h : c.validate base64 = [])
    {l : LinkConfig} (hl : l ∈ c.links) (hneeds : c.linkNeedsListen l.mode = true) :
    l.listen.isSome := by
  have hfields := fields_of_validateLink (validateLink_of_valid h hl)
  rw [if_pos hneeds] at hfields
  exact hfields.1

theorem target_of_valid {c : Config} {base64 : Base64} (h : c.validate base64 = [])
    {l : LinkConfig} (hl : l ∈ c.links) (hneeds : c.linkNeedsListen l.mode = false) :
    l.target.isSome := by
  have hfields := fields_of_validateLink (validateLink_of_valid h hl)
  rw [if_neg (by simp [hneeds])] at hfields
  exact hfields.1

/-- The keys of peers that pass `validate_peers` decode. -/
theorem keys_of_validatePeersLoop {c : Config} {base64 : Base64} {seenNames : List String}
    {seenKeys : List (List UInt8)} {peers : List PeerConfig}
    (h : c.validatePeersLoop base64 seenNames seenKeys peers = []) :
    ∀ p ∈ peers, ∃ key, decodePublicKey base64 p.publicKey = .ok key := by
  induction peers generalizing seenNames seenKeys with
  | nil => simp
  | cons peer peers ih =>
    simp only [validatePeersLoop, List.append_eq_nil_iff] at h
    obtain ⟨-, h⟩ := h
    split at h
    · rename_i key hkey
      simp only [List.append_eq_nil_iff] at h
      intro p hp
      rcases List.mem_cons.mp hp with rfl | hp
      · exact ⟨key, hkey⟩
      · exact ih h.2 p hp
    · simp at h

/-- What the server role needs of a config. -/
structure ServerFields (c : Config) (base64 : Base64) : Prop where
  listenControl : c.listenControl.isSome
  listenData : c.listenData.isSome
  keys : ∀ p ∈ c.peers, ∃ key, decodePublicKey base64 p.publicKey = .ok key

theorem serverFields_of_valid {c : Config} {base64 : Base64} (h : c.validate base64 = [])
    (hrole : c.role = .server) : c.ServerFields base64 := by
  have hvalid := (validate_eq_nil.mp h).1
  simp only [validateRole, hrole, List.append_eq_nil_iff, requirePresent_eq_nil] at hvalid
  obtain ⟨⟨⟨⟨⟨⟨hcontrol, hdata⟩, -⟩, -⟩, -⟩, -⟩, hpeers⟩ := hvalid
  exact ⟨hcontrol, hdata, keys_of_validatePeersLoop hpeers⟩

/-- What the client role needs of a config. -/
structure ClientFields (c : Config) (base64 : Base64) : Prop where
  serverControlAddr : c.serverControlAddr.isSome
  serverDataAddr : c.serverDataAddr.isSome
  serverUdpAddr : ∀ l ∈ c.links, l.transport = .udp → c.serverUdpAddr.isSome
  peerPublicKey : ∃ s key, c.peerPublicKey = some s ∧ decodePublicKey base64 s = .ok key

theorem clientFields_of_valid {c : Config} {base64 : Base64} (h : c.validate base64 = [])
    (hrole : c.role = .client) : c.ClientFields base64 := by
  obtain ⟨hvalid, -, hudp⟩ := validate_eq_nil.mp h
  simp only [validateRole, hrole, List.append_eq_nil_iff, requirePresent_eq_nil] at hvalid
  obtain ⟨⟨⟨⟨⟨hcontrol, hdata⟩, -⟩, -⟩, hkey⟩, -⟩ := hvalid
  refine ⟨hcontrol, hdata, fun l hl htransport => ?_, ?_⟩
  · have hany : c.anyUdpLink = true := List.any_eq_true.mpr ⟨l, hl, by simpa using htransport⟩
    simp only [validateUdp, hrole, hany, List.append_eq_nil_iff, if_true,
      requirePresent_eq_nil] at hudp
    exact hudp.2
  · split at hkey
    · cases hkey
    · rename_i s hs
      split at hkey
      · rename_i key hok
        exact ⟨s, key, hs, hok⟩
      · cases hkey

end Config

end Ghostport.Core
