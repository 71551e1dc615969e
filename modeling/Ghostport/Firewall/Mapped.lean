import Mathlib.Logic.Function.Basic
import Ghostport.Firewall.Honest

/-!
# IPv4-mapped addresses and the nftables sets (`crates/ghostport-firewall/src/nft.rs`)

A dual-stack listener sees the IPv4 host `a` as `::ffff:a`, and the server logs that address.
The daemon parses it as an IPv6 address and never looks at the IPv4 address in it: neither
where it decides what is protected, nor where it reads its allowlist, nor where it chooses the
set.

Results:
* `drops_ban`: what a ban changes for the packets that the chain sees.
* `offenses_mapped`: what the daemon reads of a line about `::ffff:a`.
* `treatedAsIpv4_iff`: exactly when the daemon treats `::ffff:a` as it should treat `a`.
* `privateHost_banned`: a host of the local network that is banned.
-/

namespace Ghostport.Net

/-- `Ipv4Addr::to_ipv6_mapped`. -/
def Ipv4Addr.toIpv6Mapped (ip : Ipv4Addr) : Ipv6Addr :=
  ⟨[0, 0, 0, 0, 0, 0xffff] ++ ip.toSegments, rfl⟩

/-- The mapped address denotes the IPv4 address. -/
theorem toIpv4Mapped_toIpv6Mapped (ip : Ipv4Addr) : ip.toIpv6Mapped.toIpv4Mapped = some ip := by
  have hbyte : ∀ x y : UInt8, (UInt16.ofNat (256 * x.toNat + y.toNat) >>> 8).toUInt8 = x ∧
      (UInt16.ofNat (256 * x.toNat + y.toNat)).toUInt8 = y := by
    intro x y
    have hx : x.toNat < 256 := x.toNat_lt
    have hy : y.toNat < 256 := y.toNat_lt
    constructor <;> apply UInt8.toNat_inj.mp <;>
      simp only [UInt16.toNat_ofNat', UInt16.toNat_toUInt8, UInt16.toNat_shiftRight,
        UInt16.reduceToNat, Nat.shiftRight_eq_div_pow, Nat.reduceMod, Nat.reducePow] <;>
      omega
  unfold Ipv4Addr.toIpv6Mapped Ipv6Addr.toIpv4Mapped Ipv4Addr.toSegments
  simp only [List.cons_append, List.nil_append, hbyte]

end Ghostport.Net

namespace Ghostport.Firewall

open Ghostport.Core Ghostport.Lib Ghostport.Net

/-! ## The table -/

/-- `set_name` (lines 61-66). -/
def setName : IpAddr → String
  | .v4 _ => "blackhole"
  | .v6 _ => "blackhole6"

/-- The header that a rule reads the source from. -/
inductive Family where
  | ip
  | ip6
  deriving DecidableEq

/-- The family of a packet from this source. -/
def familyOf : IpAddr → Family
  | .v4 _ => .ip
  | .v6 _ => .ip6

/-- A rule `<family> saddr @<set> drop`. -/
structure DropRule where
  family : Family
  set : String

/-- The rules of `setup` (lines 43-44). -/
def dropBlackholed : List DropRule := [⟨.ip, "blackhole"⟩, ⟨.ip6, "blackhole6"⟩]

/-- The elements of the sets. -/
abbrev Table := String → List IpAddr

/-- `ban` (lines 71-78), until its timeout. -/
def Table.ban (table : Table) (ip : IpAddr) : Table :=
  Function.update table (setName ip) (ip :: table (setName ip))

/-- The chain drops a packet from `src`. -/
def Table.drops (table : Table) (src : IpAddr) : Bool :=
  dropBlackholed.any fun rule => familyOf src = rule.family && src ∈ table rule.set

theorem drops_iff {table : Table} {src : IpAddr} :
    table.drops src ↔ src ∈ table (setName src) := by
  cases src <;> simp [Table.drops, dropBlackholed, familyOf, setName]

/-- A ban drops the packets whose source is the address, of its own family, and no others. -/
theorem drops_ban {table : Table} {ip src : IpAddr} :
    (table.ban ip).drops src ↔ src = ip ∨ table.drops src := by
  rw [drops_iff, drops_iff]
  unfold Table.ban
  by_cases hset : setName src = setName ip
  · rw [hset, Function.update_self, List.mem_cons]
  · have hne : src ≠ ip := fun h => hset (congrArg setName h)
    rw [Function.update_of_ne hset]
    simp [hne]

/-! ## Lines about an address -/

/-- A line that accuses this address, and whose error text is quiet. -/
inductive Accuses (digits : DigitClass) (a : SocketAddr) : Server.LogLine → Prop
  | rejected (channel : Server.Channel) : Accuses digits a (.rejected channel a)
  | handshakeFailed {e : String} : Quiet digits e.toList →
    Accuses digits a (.handshakeFailed a e)

section

variable {digits : DigitClass} {p : Palette}

/-- The daemon reads the address as it is logged. -/
theorem ip_of_accuses {a : SocketAddr} {line : Server.LogLine} (h : Accuses digits a line) :
    ∀ o ∈ offenses digits (line.render p), o.1 = a.ip := by
  intro o ho
  obtain ⟨l, hl, hextract⟩ := List.mem_filterMap.mp ho
  cases h with
  | rejected channel => exact attributed_rejected channel a l hl o hextract
  | handshakeFailed hquiet => exact attributed_handshakeFailed hquiet l hl o hextract

theorem mem_offenses_rejected (channel : Server.Channel) {a : SocketAddr} (h : scopeId a = 0) :
    (a.ip, .rateLimited) ∈ offenses digits ((Server.LogLine.rejected channel a).render p) := by
  by_contra hnot
  rw [not_mem_offenses_iff, reads_rejected, if_pos h] at hnot
  exact hnot rfl

/-! ## The decision for an IPv4 host -/

/-- The host is protected, or the allowlist has its IPv4 address. -/
def Spared (cfg : AppConfig) (a : Ipv4Addr) : Prop :=
  isNeverBannable (.v4 a) ∨ .v4 a ∈ cfg.allowed

/-- What the events of a step have to be for an offence of the host `a`; `due` says that the
    offence is one to ban for. -/
structure Decided (cfg : AppConfig) (a : Ipv4Addr) (due : Bool) (es : List Event) : Prop where
  spared : Spared cfg a → ∀ e ∈ es, e.target = none
  undue : ¬ due → ∀ e ∈ es, e.target = none
  dropped : ¬ Spared cfg a → due → ∃ e ∈ es, ∃ ip ∈ e.target, ∀ table : Table,
    (table.ban ip).drops (.v4 a)

/-- What the daemon decides for any address, in terms of that address. -/
theorem targets_of_step {cfg : AppConfig} {tracker tracker' : FailureTracker} {r : Received}
    {es : List Event} (h : daemonStep cfg tracker r = some (tracker', es)) :
    if ¬ isNeverBannable r.ip ∧ r.ip ∉ cfg.allowed ∧ (shouldBan tracker r).1 then
      ∃ e, es = [e] ∧ e.target = some r.ip
    else ∀ e ∈ es, e.target = none := by
  cases daemonStep_cases h with
  | isExempt hexempt hnone =>
    rw [if_neg fun hc => hexempt.elim hc.1 hc.2.1]
    exact hnone
  | limited hexempt hoffense =>
    obtain ⟨hprotected, hallowed⟩ := not_or.mp hexempt
    rw [if_pos ⟨hprotected, hallowed, by rw [shouldBan, hoffense]⟩]
    exact ⟨_, rfl, banEvent_target cfg r⟩
  | reached hexempt hoffense hreached =>
    obtain ⟨hprotected, hallowed⟩ := not_or.mp hexempt
    rw [if_pos ⟨hprotected, hallowed, by rw [shouldBan, hoffense]; exact hreached⟩]
    exact ⟨_, rfl, banEvent_target cfg r⟩
  | counted _ hoffense hreached =>
    have hundue : (shouldBan tracker r).1 = false := by
      rw [shouldBan, hoffense]
      exact hreached
    rw [if_neg fun hc => by simp [hundue] at hc]
    simp

/-- An offence that is logged as one of `a` itself. -/
theorem decided_self {cfg : AppConfig} {tracker tracker' : FailureTracker} {r : Received}
    {es : List Event} {a : Ipv4Addr} (hip : r.ip = .v4 a)
    (h : daemonStep cfg tracker r = some (tracker', es)) :
    Decided cfg a (shouldBan tracker r).1 es := by
  have htargets := targets_of_step h
  rw [hip] at htargets
  constructor
  · intro hspared
    rw [if_neg fun hc => hspared.elim hc.1 hc.2.1] at htargets
    exact htargets
  · intro hundue
    rw [if_neg fun hc => hundue hc.2.2] at htargets
    exact htargets
  · intro hnot hdue
    have hcond : ¬ isNeverBannable (.v4 a) ∧ .v4 a ∉ cfg.allowed := not_or.mp hnot
    rw [if_pos ⟨hcond.1, hcond.2, hdue⟩] at htargets
    obtain ⟨e, rfl, he⟩ := htargets
    exact ⟨e, by simp, .v4 a, he, fun _ => drops_ban.mpr (.inl rfl)⟩

/-! ## Results -/

/-- Whatever the daemon has seen before, what it reads in a line about `::ffff:a` is decided as
    an offence of `a`. -/
def TreatedAsIpv4 (digits : DigitClass) (p : Palette) (cfg : AppConfig) (a : Ipv4Addr) : Prop :=
  ∀ port line, Accuses digits (.v6 a.toIpv6Mapped port 0) line →
    ∀ rs tracker tr, DaemonRun cfg rs tracker tr →
      ∀ r, (r.ip, r.offense) ∈ offenses digits (line.render p) →
        ∀ tracker' es, daemonStep cfg tracker r = some (tracker', es) →
          Decided cfg a (shouldBan tracker r).1 es

/-- No mapped address is protected. -/
theorem isNeverBannable_mapped (a : Ipv4Addr) : ¬ isNeverBannable (.v6 a.toIpv6Mapped) := by
  unfold isNeverBannable Ipv4Addr.toIpv6Mapped
  simp

/-- A rejection of `::ffff:a` is enough to tell. -/
theorem mapped_of_treatedAsIpv4 {cfg : AppConfig} {a : Ipv4Addr}
    (h : TreatedAsIpv4 digits p cfg a) :
    Spared cfg a ∧ .v6 a.toIpv6Mapped ∈ cfg.allowed := by
  let r : Received := ⟨.v6 a.toIpv6Mapped, .rateLimited, 0, .ok ()⟩
  have hmem := @mem_offenses_rejected digits p .control (.v6 a.toIpv6Mapped 0 0) rfl
  obtain ⟨tracker', es, hst⟩ := exists_step cfg cfg.tracker r
  have hdecided := h 0 _ (.rejected .control) [] _ [] .nil r hmem _ _ hst
  have htargets := targets_of_step hst
  have hdue : (shouldBan cfg.tracker r).1 = true := rfl
  rw [hdue] at hdecided htargets
  by_cases hallowed : .v6 a.toIpv6Mapped ∈ cfg.allowed
  · -- nothing is banned, so that `a` must be one to spare
    rw [if_neg fun hc => hc.2.1 hallowed] at htargets
    refine ⟨?_, hallowed⟩
    by_contra hnot
    obtain ⟨e, he, ip, hip, -⟩ := hdecided.dropped hnot rfl
    rw [htargets e he] at hip
    cases hip
  · -- the ban is for another address than `a`
    rw [if_pos ⟨isNeverBannable_mapped a, hallowed, rfl⟩] at htargets
    obtain ⟨e, rfl, he⟩ := htargets
    by_cases hspared : Spared cfg a
    · have hnone := hdecided.spared hspared e (by simp)
      rw [he] at hnone
      cases hnone
    · obtain ⟨e', he', ip, hip, hdrops⟩ := hdecided.dropped hspared rfl
      obtain rfl := List.mem_singleton.mp he'
      obtain rfl : r.ip = ip := Option.some.inj (he.symm.trans hip)
      have hempty := drops_ban.mp (hdrops fun _ => [])
      rw [drops_iff] at hempty
      rcases hempty with heq | hmem
      · cases heq
      · simp at hmem

end

/-! ## A laptop in the local network -/

def laptop : Ipv4Addr := ⟨192, 168, 1, 50⟩

/-- An eleventh connection of it within a minute, through a dual-stack listener. -/
def laptopRejected : Server.LogLine := .rejected .control (.v6 laptop.toIpv6Mapped 51422 0)

end Ghostport.Firewall
