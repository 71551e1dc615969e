import Ghostport.Core.Stats
import Ghostport.Lib.ExpositionText

/-!
# The metrics of a snapshot (`crates/ghostport-metrics/src/render.rs`)

`render` writes the ids and the modes of the links between double quotes as they are.

Results:
* `faithful_iff`: the text is read as the samples of the snapshot exactly if no id and no mode
  has a character that the format escapes.
* `faithful_snapshot`: for a running daemon that depends on the ids of the config alone.
-/

namespace Ghostport.Metrics

open Ghostport.Core
open Ghostport.Net
open Ghostport.Lib.Exposition

/-! ## Model -/

structure Metric where
  name : String
  help : String
  kind : String

def up : Metric :=
  ⟨"ghostport_up", "Whether the ghostport daemon's status socket answered this scrape.", "gauge"⟩

def uptimeSeconds : Metric :=
  ⟨"ghostport_uptime_seconds", "Seconds since the daemon started.", "gauge"⟩

def controlConnected : Metric :=
  ⟨"ghostport_control_connected", "Whether the control channel is currently connected.", "gauge"⟩

def controlConnectedSeconds : Metric :=
  ⟨"ghostport_control_connected_seconds",
    "Seconds since the current control connection was established.", "gauge"⟩

def linkActiveStreams : Metric :=
  ⟨"ghostport_link_active_streams", "Streams currently being relayed on this link.", "gauge"⟩

def linkStreamsTotal : Metric :=
  ⟨"ghostport_link_streams_total", "Total streams ever opened on this link.", "counter"⟩

def linkBytesForwardTotal : Metric :=
  ⟨"ghostport_link_bytes_forward_total", "Bytes relayed in the forward direction on this link.",
    "counter"⟩

def linkBytesBackTotal : Metric :=
  ⟨"ghostport_link_bytes_back_total", "Bytes relayed in the opposite direction on this link.",
    "counter"⟩

/-- The `HELP` and `TYPE` lines. -/
def header (m : Metric) : String :=
  "# HELP " ++ m.name ++ " " ++ m.help ++ "\n" ++ "# TYPE " ++ m.name ++ " " ++ m.kind ++ "\n"

/-- `{}` of a counter. -/
def number (n : ℕ) : String := String.ofList (decimal n)

/-- A metric with a value of its own. -/
def single (m : Metric) (value : ℕ) : String :=
  header m ++ m.name ++ " " ++ number value ++ "\n"

/-- The line of a link. -/
def linkLine (m : Metric) (link : LinkSnapshot) (value : UInt64) : String :=
  m.name ++ "\x7blink_id=\"" ++ link.id ++ "\",mode=\"" ++ link.mode ++ "\"\x7d " ++
    number value.toNat ++ "\n"

/-- A metric of the links. -/
def perLink (m : Metric) (value : LinkSnapshot → UInt64) (links : List LinkSnapshot) : String :=
  header m ++ String.join (links.map fun link => linkLine m link (value link))

/-- The metrics of the links (lines 60-120). -/
def linkMetrics (links : List LinkSnapshot) : String :=
  perLink linkActiveStreams (·.activeStreams) links ++
  perLink linkStreamsTotal (·.totalStreams) links ++
  perLink linkBytesForwardTotal (·.bytesForward) links ++
  perLink linkBytesBackTotal (·.bytesBack) links

/-- The metric of a connection (lines 50-58). -/
def connectedSeconds : Option UInt64 → String
  | none => ""
  | some secs => single controlConnectedSeconds secs.toNat

/-- What `render` writes of a snapshot behind `ghostport_up` (lines 29-120). -/
def renderSnapshot (snapshot : StatusSnapshot) : String :=
  single uptimeSeconds snapshot.uptimeSecs.toNat ++
  single controlConnected snapshot.controlConnected.toNat ++
  connectedSeconds snapshot.controlConnectedSinceSecsAgo ++
  if snapshot.links.isEmpty then "" else linkMetrics snapshot.links

/-- `render` (lines 14-123). -/
def render (snapshot : Option StatusSnapshot) : String :=
  single up snapshot.isSome.toNat ++
  match snapshot with
  | none => ""
  | some snapshot => renderSnapshot snapshot

/-! ## Specification -/

/-- A value of the daemon. -/
def gaugeSample (name : String) (value : ℕ) : Sample := ⟨name.toList, [], .finite value, none⟩

def linkLabels (link : LinkSnapshot) : List Label :=
  [("link_id".toList, link.id.toList), ("mode".toList, link.mode.toList)]

/-- A value of a link. -/
def linkSample (name : String) (link : LinkSnapshot) (value : UInt64) : Sample :=
  ⟨name.toList, linkLabels link, .finite value.toNat, none⟩

def linkSamples (link : LinkSnapshot) : List Sample :=
  [linkSample "ghostport_link_active_streams" link link.activeStreams,
    linkSample "ghostport_link_streams_total" link link.totalStreams,
    linkSample "ghostport_link_bytes_forward_total" link link.bytesForward,
    linkSample "ghostport_link_bytes_back_total" link link.bytesBack]

/-- The samples of a snapshot. -/
def samplesOf (snapshot : StatusSnapshot) : List Sample :=
  [gaugeSample "ghostport_up" 1,
    gaugeSample "ghostport_uptime_seconds" snapshot.uptimeSecs.toNat,
    gaugeSample "ghostport_control_connected" snapshot.controlConnected.toNat] ++
  (snapshot.controlConnectedSinceSecsAgo.toList.map fun secs =>
    gaugeSample "ghostport_control_connected_seconds" secs.toNat) ++
  snapshot.links.flatMap linkSamples

/-- The text is read as the samples of the snapshot, in some order. -/
def Faithful (snapshot : StatusSnapshot) : Prop :=
  ∃ samples, parse (render (some snapshot)).toList = some samples ∧
    samples.Perm (samplesOf snapshot)

/-- The text has no character that is escaped in the value of a label. -/
def Plain (s : String) : Prop := '\\' ∉ s.toList ∧ '"' ∉ s.toList ∧ '\n' ∉ s.toList

theorem plain_iff {s : String} : Plain s ↔ weight s.toList = 0 := weight_eq_zero.symm

instance (s : String) : Decidable (Plain s) :=
  inferInstanceAs (Decidable ('\\' ∉ s.toList ∧ '"' ∉ s.toList ∧ '\n' ∉ s.toList))

/-! ## The metrics -/

/-- The `HELP` and `TYPE` lines are lines of the format. -/
def Metric.WellFormed (m : Metric) : Prop :=
  isName isNameStart isNameChar m.name.toList ∧ Plain m.help ∧ m.kind.toList ∈ kinds

instance (m : Metric) : Decidable m.WellFormed :=
  inferInstanceAs (Decidable
    (isName isNameStart isNameChar m.name.toList ∧ Plain m.help ∧ m.kind.toList ∈ kinds))

def globalMetrics : List Metric := [up, uptimeSeconds, controlConnected, controlConnectedSeconds]

def linkMetricList : List Metric :=
  [linkActiveStreams, linkStreamsTotal, linkBytesForwardTotal, linkBytesBackTotal]

theorem globalMetrics_wellFormed : ∀ m ∈ globalMetrics, m.WellFormed := by decide +kernel

theorem linkMetricList_wellFormed : ∀ m ∈ linkMetricList, m.WellFormed := by decide +kernel

theorem metrics_nodup :
    ((globalMetrics ++ linkMetricList).map fun m => m.name.toList).Nodup := by decide +kernel

/-! ## The text as groups of samples -/

def singleFamily (m : Metric) (value : ℕ) : Family :=
  ⟨m.name.toList, m.help.toList, m.kind.toList, [⟨[], value⟩]⟩

def perLinkFamily (m : Metric) (value : LinkSnapshot → UInt64) (links : List LinkSnapshot) :
    Family :=
  ⟨m.name.toList, m.help.toList, m.kind.toList,
    links.map fun link => ⟨linkLabels link, (value link).toNat⟩⟩

/-- The metrics of the links, in the order of the text. -/
def linkFamilies (links : List LinkSnapshot) : List Family :=
  [perLinkFamily linkActiveStreams (·.activeStreams) links,
    perLinkFamily linkStreamsTotal (·.totalStreams) links,
    perLinkFamily linkBytesForwardTotal (·.bytesForward) links,
    perLinkFamily linkBytesBackTotal (·.bytesBack) links]

def families (snapshot : StatusSnapshot) : List Family :=
  [singleFamily up 1, singleFamily uptimeSeconds snapshot.uptimeSecs.toNat,
    singleFamily controlConnected snapshot.controlConnected.toNat] ++
  (snapshot.controlConnectedSinceSecsAgo.toList.map fun secs =>
    singleFamily controlConnectedSeconds secs.toNat) ++
  if snapshot.links.isEmpty then [] else linkFamilies snapshot.links

theorem toList_space : " ".toList = [' '] := rfl

theorem toList_newline : "\n".toList = ['\n'] := rfl

/-- A metric from its two lines on. -/
theorem header_append (m : Metric) (series : List Series) :
    (header m).toList ++ series.flatMap (fun s => m.name.toList ++ s.text ++ ['\n']) =
      Family.text ⟨m.name.toList, m.help.toList, m.kind.toList, series⟩ := by
  unfold Family.text Family.lines header
  simp only [String.toList_append, toList_space, toList_newline]
  -- the literals are not to be evaluated
  generalize "# HELP ".toList = startHelp
  generalize "# TYPE ".toList = startType
  simp only [List.flatMap_cons, List.flatMap_map, List.append_assoc, List.cons_append,
    List.nil_append]

theorem toList_single (m : Metric) (value : ℕ) :
    (single m value).toList = (singleFamily m value).text := by
  unfold singleFamily single number
  rw [← header_append]
  simp only [String.toList_append, String.toList_ofList, toList_space, toList_newline,
    List.flatMap_cons, List.flatMap_nil, List.append_nil, List.append_assoc, Series.text, if_true,
    List.cons_append, List.nil_append]
  rfl

/-- The line of a link whose id and mode stand for themselves. -/
theorem toList_linkLine {link : LinkSnapshot} (hid : Plain link.id) (hmode : Plain link.mode)
    (m : Metric) (value : UInt64) :
    (linkLine m link value).toList =
      m.name.toList ++ Series.text ⟨linkLabels link, value.toNat⟩ ++ ['\n'] := by
  have hopen : "\x7blink_id=\"".toList = '\x7b' :: ("link_id".toList ++ ['=', '"']) := rfl
  have hnext : "\",mode=\"".toList = '"' :: ',' :: ("mode".toList ++ ['=', '"']) := rfl
  have hclose : "\"\x7d ".toList = ['"', '\x7d', ' '] := rfl
  unfold linkLine number Series.text linkLabels labelsText labelsText labelText
  rw [if_neg (List.cons_ne_nil _ _), escaped_eq_self (plain_iff.mp hid),
    escaped_eq_self (plain_iff.mp hmode)]
  simp only [String.toList_append, String.toList_ofList, toList_newline, hopen, hnext, hclose,
    decimal]
  generalize "link_id".toList = idLabel
  generalize "mode".toList = modeLabel
  simp only [List.append_assoc, List.cons_append, List.nil_append]

section

variable {links : List LinkSnapshot}

theorem toList_perLink (hplain : ∀ link ∈ links, Plain link.id ∧ Plain link.mode) (m : Metric)
    (value : LinkSnapshot → UInt64) :
    (perLink m value links).toList = (perLinkFamily m value links).text := by
  unfold perLink perLinkFamily
  rw [← header_append, String.toList_append, String.toList_join, List.flatMap_map,
    List.flatMap_map]
  refine congrArg ((header m).toList ++ ·) (List.flatMap_congr fun link hlink => ?_)
  exact toList_linkLine (hplain link hlink).1 (hplain link hlink).2 m (value link)

theorem toList_linkMetrics (hplain : ∀ link ∈ links, Plain link.id ∧ Plain link.mode) :
    (linkMetrics links).toList = print (linkFamilies links) := by
  unfold linkMetrics print linkFamilies
  simp only [String.toList_append, toList_perLink hplain, List.flatMap_cons, List.flatMap_nil,
    List.append_nil, List.append_assoc]

end

theorem toList_connectedSeconds (since : Option UInt64) :
    (connectedSeconds since).toList =
      print (since.toList.map fun secs => singleFamily controlConnectedSeconds secs.toNat) := by
  cases since with
  | none => rfl
  | some secs =>
    rw [connectedSeconds, toList_single]
    exact (List.append_nil _).symm

theorem toList_render {snapshot : StatusSnapshot}
    (hplain : ∀ link ∈ snapshot.links, Plain link.id ∧ Plain link.mode) :
    (render (some snapshot)).toList = print (families snapshot) := by
  have hlinks : (if snapshot.links.isEmpty then "" else linkMetrics snapshot.links).toList =
      print (if snapshot.links.isEmpty then [] else linkFamilies snapshot.links) := by
    split_ifs
    · rfl
    · exact toList_linkMetrics hplain
  unfold render renderSnapshot families
  simp only [String.toList_append, toList_single, toList_connectedSeconds, hlinks, print,
    List.flatMap_append, List.flatMap_cons, List.flatMap_nil, List.append_nil, List.append_assoc]
  rfl

theorem perLinkFamily_samples (m : Metric) (value : LinkSnapshot → UInt64)
    (links : List LinkSnapshot) :
    (perLinkFamily m value links).samples =
      links.map fun link => linkSample m.name link (value link) := by
  unfold perLinkFamily Family.samples
  rw [List.map_map]
  rfl

/-- The text goes through the links metric by metric. -/
theorem linkFamilies_samples (links : List LinkSnapshot) :
    ((linkFamilies links).flatMap Family.samples).Perm (links.flatMap linkSamples) := by
  have hperm : ∀ f g h k : LinkSnapshot → Sample,
      (links.map f ++ (links.map g ++ (links.map h ++ links.map k))).Perm
        (links.flatMap fun link => [f link, g link, h link, k link]) := by
    intro f g h k
    rw [List.map_eq_flatMap (f := k)]
    have hlast := List.map_append_flatMap_perm links h fun link => [k link]
    have htwo := (hlast.append_left (links.map g)).trans (List.map_append_flatMap_perm links g _)
    exact (htwo.append_left (links.map f)).trans (List.map_append_flatMap_perm links f _)
  unfold linkFamilies
  simp only [List.flatMap_cons, List.flatMap_nil, perLinkFamily_samples, List.append_nil]
  exact hperm _ _ _ _

theorem families_samples (snapshot : StatusSnapshot) :
    ((families snapshot).flatMap Family.samples).Perm (samplesOf snapshot) := by
  have hlinks : ((if snapshot.links.isEmpty then [] else linkFamilies snapshot.links).flatMap
      Family.samples).Perm (snapshot.links.flatMap linkSamples) := by
    split_ifs with hempty
    · rw [List.isEmpty_iff.mp hempty]
      exact List.Perm.refl _
    · exact linkFamilies_samples snapshot.links
  unfold families samplesOf
  rw [List.flatMap_append, List.flatMap_append]
  refine List.Perm.append (List.Perm.append (List.Perm.refl _) ?_) hlinks
  rw [List.flatMap_map, List.map_eq_flatMap]
  exact List.Perm.refl _

/-! ## Well-formed groups -/

theorem singleFamily_wellFormed {m : Metric} (h : m ∈ globalMetrics) (value : ℕ) :
    (singleFamily m value).WellFormed := by
  obtain ⟨hname, hhelp, hkind⟩ := globalMetrics_wellFormed m h
  refine ⟨hname, ⟨helpEscaped_of_not_mem hhelp.1, hhelp.2.2⟩, hkind, ?_,
    List.pairwise_singleton _ _⟩
  intro s hs
  obtain rfl := List.mem_singleton.mp hs
  exact ⟨fun _ hlabel => absurd hlabel List.not_mem_nil, List.nodup_nil⟩

theorem linkLabels_ne {link other : LinkSnapshot} (h : link.id ≠ other.id) :
    ¬ (linkLabels link).Perm (linkLabels other) := by
  intro hperm
  have hmem : ("link_id".toList, link.id.toList) ∈ linkLabels other :=
    hperm.mem_iff.mp List.mem_cons_self
  rcases List.mem_cons.mp hmem with heq | hmem
  · exact h (String.toList_inj.mp (Prod.mk.inj heq).2)
  · have hkey := (Prod.mk.inj (List.mem_singleton.mp hmem)).1
    exact absurd hkey (by decide)

theorem linkSeries_wellFormed (link : LinkSnapshot) (value : ℕ) :
    Series.WellFormed ⟨linkLabels link, value⟩ := by
  have hlinkId : isName isLabelStart isLabelChar "link_id".toList := by decide
  have hmode : isName isLabelStart isLabelChar "mode".toList := by decide
  refine ⟨fun label hlabel => ?_, ?_⟩
  · rcases List.mem_cons.mp hlabel with rfl | hlabel
    · exact hlinkId
    · obtain rfl := List.mem_singleton.mp hlabel
      exact hmode
  · show ["link_id".toList, "mode".toList].Nodup
    decide

section

variable {links : List LinkSnapshot}

theorem perLinkFamily_wellFormed {m : Metric} (h : m ∈ linkMetricList)
    (hids : (links.map (·.id)).Nodup) (value : LinkSnapshot → UInt64) :
    (perLinkFamily m value links).WellFormed := by
  obtain ⟨hname, hhelp, hkind⟩ := linkMetricList_wellFormed m h
  refine ⟨hname, ⟨helpEscaped_of_not_mem hhelp.1, hhelp.2.2⟩, hkind, ?_, ?_⟩
  · intro s hs
    obtain ⟨link, -, rfl⟩ := List.mem_map.mp hs
    exact linkSeries_wellFormed link _
  · have hdistinct : links.Pairwise fun link other => link.id ≠ other.id :=
      List.pairwise_map.mp hids
    exact List.pairwise_map.mpr (hdistinct.imp fun hne => linkLabels_ne hne)

theorem linkFamilies_wellFormed (hids : (links.map (·.id)).Nodup) :
    ∀ f ∈ linkFamilies links, f.WellFormed := by
  unfold linkFamilies
  simp only [List.forall_mem_cons]
  refine ⟨?_, ?_, ?_, ?_, fun _ hmem => absurd hmem List.not_mem_nil⟩
  all_goals exact perLinkFamily_wellFormed (by simp [linkMetricList]) hids _

end

theorem families_wellFormed {snapshot : StatusSnapshot}
    (hids : (snapshot.links.map (·.id)).Nodup) : ∀ f ∈ families snapshot, f.WellFormed := by
  unfold families
  simp only [List.forall_mem_append, List.forall_mem_cons]
  refine ⟨⟨⟨?_, ?_, ?_, fun _ hmem => absurd hmem List.not_mem_nil⟩, ?_⟩, ?_⟩
  · exact singleFamily_wellFormed (by simp [globalMetrics]) _
  · exact singleFamily_wellFormed (by simp [globalMetrics]) _
  · exact singleFamily_wellFormed (by simp [globalMetrics]) _
  · intro f hf
    obtain ⟨secs, -, rfl⟩ := List.mem_map.mp hf
    exact singleFamily_wellFormed (by simp [globalMetrics]) _
  · split_ifs
    · exact fun _ hmem => absurd hmem List.not_mem_nil
    · exact linkFamilies_wellFormed hids

theorem families_names (snapshot : StatusSnapshot) :
    ((families snapshot).map Family.name).Nodup := by
  refine List.Nodup.sublist ?_ metrics_nodup
  show (_ : List (List Char)).Sublist
    (([up, uptimeSeconds, controlConnected].map fun m => m.name.toList) ++
      [controlConnectedSeconds.name.toList] ++ linkMetricList.map fun m => m.name.toList)
  unfold families
  rw [List.map_append, List.map_append]
  refine List.Sublist.append (List.Sublist.append (List.Sublist.refl _) ?_) ?_
  · cases snapshot.controlConnectedSinceSecsAgo with
    | none => exact List.nil_sublist _
    | some secs => exact List.Sublist.refl _
  · split_ifs
    · exact List.nil_sublist _
    · exact List.Sublist.refl _

/-! ## Backslashes -/

theorem samplesWeight_append (s t : List Sample) :
    samplesWeight (s ++ t) = samplesWeight s + samplesWeight t := by
  rw [samplesWeight, List.map_append, List.sum_append]
  rfl

/-- What the id and the mode take. -/
def linkWeight (link : LinkSnapshot) : ℕ := weight link.id.toList + weight link.mode.toList

/-- The backslashes of the id and the mode. -/
def linkSlashes (link : LinkSnapshot) : ℕ :=
  link.id.toList.count '\\' + link.mode.toList.count '\\'

/-- A backslash takes two. -/
theorem linkSlashes_le (links : List LinkSnapshot) :
    2 * (links.map linkSlashes).sum ≤ (links.map linkWeight).sum := by
  induction links with
  | nil => exact Nat.zero_le _
  | cons link links ih =>
    have hlink : 2 * linkSlashes link ≤ linkWeight link := by
      unfold linkSlashes linkWeight weight
      omega
    simp only [List.map_cons, List.sum_cons]
    omega

theorem linkSamples_weight (links : List LinkSnapshot) :
    samplesWeight (links.flatMap linkSamples) = 4 * (links.map linkWeight).sum := by
  induction links with
  | nil => rfl
  | cons link links ih =>
    have hsample : ∀ name value, (linkSample name link value).weight = linkWeight link :=
      fun _ _ => rfl
    have hlink : samplesWeight (linkSamples link) = 4 * linkWeight link := by
      simp only [samplesWeight, linkSamples, List.map_cons, List.map_nil, hsample, List.sum_cons,
        List.sum_nil]
      omega
    rw [List.flatMap_cons, samplesWeight_append, ih, hlink, List.map_cons, List.sum_cons]
    omega

theorem samplesOf_weight (snapshot : StatusSnapshot) :
    samplesWeight (samplesOf snapshot) = 4 * (snapshot.links.map linkWeight).sum := by
  have hsince : samplesWeight (snapshot.controlConnectedSinceSecsAgo.toList.map fun secs =>
      gaugeSample "ghostport_control_connected_seconds" secs.toNat) = 0 := by
    cases snapshot.controlConnectedSinceSecsAgo <;> rfl
  rw [samplesOf, samplesWeight_append, samplesWeight_append, hsince, linkSamples_weight]
  exact Nat.zero_add _

section

variable {m : Metric}

theorem name_slash (h : m.WellFormed) : '\\' ∉ m.name.toList :=
  not_mem_of_isName h.1 (by decide) (by decide)

theorem space_slash : '\\' ∉ " ".toList := by decide

theorem newline_slash : '\\' ∉ "\n".toList := by decide

theorem header_slash (h : m.WellFormed) : '\\' ∉ (header m).toList := by
  have hkind : '\\' ∉ m.kind.toList :=
    not_mem_of_isName (kinds_isName h.2.2) (by decide) (by decide)
  have hhelpLine : '\\' ∉ "# HELP ".toList := by decide
  have htypeLine : '\\' ∉ "# TYPE ".toList := by decide
  unfold header
  simp only [String.toList_append, List.mem_append, name_slash h, h.2.1.1, hkind, hhelpLine,
    htypeLine, space_slash, newline_slash, or_self, not_false_eq_true]

theorem number_slash (n : ℕ) : '\\' ∉ (number n).toList := by
  rw [number, String.toList_ofList]
  intro hmem
  have hdigit : ('\\').isDigit :=
    Nat.isDigit_of_mem_toDigits (b := 10) (n := n) (by decide) (by decide) hmem
  exact absurd hdigit (by decide)

theorem single_slash (h : m.WellFormed) (value : ℕ) : '\\' ∉ (single m value).toList := by
  unfold single
  simp only [String.toList_append, List.mem_append, header_slash h, name_slash h, number_slash,
    space_slash, newline_slash, or_self, not_false_eq_true]

theorem linkLine_count (h : m.WellFormed) (link : LinkSnapshot) (value : UInt64) :
    (linkLine m link value).toList.count '\\' = linkSlashes link := by
  have hname := List.count_eq_zero.mpr (name_slash h)
  have hnumber := List.count_eq_zero.mpr (number_slash value.toNat)
  have hopen : "\x7blink_id=\"".toList.count '\\' = 0 := by decide
  have hnext : "\",mode=\"".toList.count '\\' = 0 := by decide
  have hclose : "\"\x7d ".toList.count '\\' = 0 := by decide
  have hnewline := List.count_eq_zero.mpr newline_slash
  unfold linkLine linkSlashes
  simp only [String.toList_append, List.count_append, hname, hnumber, hopen, hnext, hclose,
    hnewline]
  omega

theorem perLink_count (h : m.WellFormed) (value : LinkSnapshot → UInt64)
    (links : List LinkSnapshot) :
    (perLink m value links).toList.count '\\' = (links.map linkSlashes).sum := by
  have hline : List.count '\\' ∘ (fun link => (linkLine m link (value link)).toList) =
      linkSlashes := funext fun link => linkLine_count h link (value link)
  unfold perLink
  rw [String.toList_append, List.count_append, List.count_eq_zero.mpr (header_slash h),
    String.toList_join, List.flatMap_map, List.count_flatMap, Nat.zero_add, hline]

end

theorem linkMetrics_count (links : List LinkSnapshot) :
    (linkMetrics links).toList.count '\\' = 4 * (links.map linkSlashes).sum := by
  have hmetric : ∀ m ∈ linkMetricList, ∀ value : LinkSnapshot → UInt64,
      (perLink m value links).toList.count '\\' = (links.map linkSlashes).sum :=
    fun m hm value => perLink_count (linkMetricList_wellFormed m hm) value links
  simp only [linkMetricList, List.forall_mem_cons] at hmetric
  obtain ⟨h₁, h₂, h₃, h₄, -⟩ := hmetric
  unfold linkMetrics
  simp only [String.toList_append, List.count_append, h₁, h₂, h₃, h₄]
  omega

theorem render_count (snapshot : StatusSnapshot) :
    (render (some snapshot)).toList.count '\\' = 4 * (snapshot.links.map linkSlashes).sum := by
  have hsingle : ∀ m ∈ globalMetrics, ∀ value, (single m value).toList.count '\\' = 0 :=
    fun m hm value => List.count_eq_zero.mpr (single_slash (globalMetrics_wellFormed m hm) value)
  simp only [globalMetrics, List.forall_mem_cons] at hsingle
  obtain ⟨hup, huptime, hconnected, hseconds, -⟩ := hsingle
  have hsince : ∀ since, (connectedSeconds since).toList.count '\\' = 0 := by
    intro since
    cases since with
    | none => rfl
    | some secs => exact hseconds secs.toNat
  have hlinks : (if snapshot.links.isEmpty then "" else linkMetrics snapshot.links).toList.count
      '\\' = 4 * (snapshot.links.map linkSlashes).sum := by
    split_ifs with hempty
    · rw [List.isEmpty_iff.mp hempty]
      rfl
    · exact linkMetrics_count snapshot.links
  unfold render renderSnapshot
  simp only [String.toList_append, List.count_append, hup, huptime, hconnected, hsince, hlinks,
    Nat.zero_add]

/-! ## Faithful texts -/

/-- A faithful text has too few backslashes for any other id or mode. -/
theorem plain_of_faithful {snapshot : StatusSnapshot} (h : Faithful snapshot) :
    ∀ link ∈ snapshot.links, Plain link.id ∧ Plain link.mode := by
  obtain ⟨samples, hparse, hperm⟩ := h
  have hle := weight_parse_le hparse
  have hsum : samplesWeight samples = samplesWeight (samplesOf snapshot) :=
    (hperm.map Sample.weight).sum_nat
  rw [hsum, samplesOf_weight, render_count] at hle
  have hslashes := linkSlashes_le snapshot.links
  have hzero : (snapshot.links.map linkWeight).sum = 0 := by omega
  intro link hlink
  have hweight : linkWeight link = 0 :=
    List.sum_eq_zero_iff_forall_eq_nat.mp hzero _ (List.mem_map_of_mem hlink)
  obtain ⟨hid, hmode⟩ := Nat.add_eq_zero_iff.mp hweight
  exact ⟨plain_iff.mpr hid, plain_iff.mpr hmode⟩

theorem faithful_of_plain {snapshot : StatusSnapshot}
    (hids : (snapshot.links.map (·.id)).Nodup)
    (hplain : ∀ link ∈ snapshot.links, Plain link.id ∧ Plain link.mode) : Faithful snapshot := by
  refine ⟨(families snapshot).flatMap Family.samples, ?_, families_samples snapshot⟩
  rw [toList_render hplain]
  exact parse_print (families_wellFormed hids) (families_names snapshot)

/-- The text is faithful exactly if no id and no mode has a character that would be escaped. -/
theorem faithful_iff {snapshot : StatusSnapshot} (hids : (snapshot.links.map (·.id)).Nodup) :
    Faithful snapshot ↔ ∀ link ∈ snapshot.links, Plain link.id ∧ Plain link.mode :=
  ⟨plain_of_faithful, faithful_of_plain hids⟩

/-! ## The snapshots of a daemon -/

/-- What a daemon reports of the links of its config. -/
theorem snapshot_ids {c : Config} {s : SharedState} (hlinks : ∀ l ∈ c.links, (s.links l.id).isSome)
    (nowUnix laterUnix : UInt64) :
    (s.snapshot c nowUnix laterUnix).links.map (·.id) = c.links.map (·.id) := by
  unfold SharedState.snapshot
  rw [List.map_filterMap, ← List.filterMap_eq_map]
  refine List.filterMap_congr fun l hl => ?_
  obtain ⟨stats, hstats⟩ := Option.isSome_iff_exists.mp (hlinks l hl)
  rw [hstats]
  rfl

theorem snapshot_mode {c : Config} {s : SharedState} {nowUnix laterUnix : UInt64}
    {link : LinkSnapshot} (h : link ∈ (s.snapshot c nowUnix laterUnix).links) :
    Plain link.mode := by
  obtain ⟨l, -, hl⟩ := List.mem_filterMap.mp h
  obtain ⟨stats, -, rfl⟩ := Option.map_eq_some_iff.mp hl
  show Plain (toLowercase l.mode.debug)
  cases l.mode with
  | forward => decide +kernel
  | reverse => decide +kernel

/-- For a daemon with a valid config the ids decide alone. -/
theorem faithful_snapshot {c : Config} {base64 : Base64} {s : SharedState}
    (hvalid : c.validate base64 = []) (hlinks : ∀ l ∈ c.links, (s.links l.id).isSome)
    (nowUnix laterUnix : UInt64) :
    Faithful (s.snapshot c nowUnix laterUnix) ↔ ∀ l ∈ c.links, Plain l.id := by
  have hids := snapshot_ids hlinks nowUnix laterUnix
  constructor
  · intro hfaithful l hl
    have hmem : l.id ∈ (s.snapshot c nowUnix laterUnix).links.map (·.id) := by
      rw [hids]
      exact List.mem_map_of_mem hl
    obtain ⟨link, hlink, hid⟩ := List.mem_map.mp hmem
    rw [← hid]
    exact (plain_of_faithful hfaithful link hlink).1
  · intro hplain
    refine faithful_of_plain (hids ▸ Config.ids_nodup hvalid) fun link hlink => ?_
    have hmem : link.id ∈ c.links.map (·.id) := hids ▸ List.mem_map_of_mem hlink
    obtain ⟨l, hl, hid⟩ := List.mem_map.mp hmem
    exact ⟨hid ▸ hplain l hl, snapshot_mode hlink⟩

/-- A server with the link `id`. -/
def serving (id : String) : Config where
  role := .server
  privateKeyPath := "/etc/ghostport/server.key"
  peerPublicKey := none
  peers := [⟨"laptop", "AAAAAAAAAAAAAAAAAAAAAAAAAAAAAAAAAAAAAAAAAAA=", []⟩]
  listenControl := some "0.0.0.0:7000"
  listenData := some "0.0.0.0:7001"
  listenUdp := none
  serverControlAddr := none
  serverDataAddr := none
  serverUdpAddr := none
  links := [⟨id, .forward, .tcp, none, some "127.0.0.1:5432"⟩]

/-- What its daemon reports five seconds after the start. -/
def scraped (id : String) : StatusSnapshot :=
  (SharedState.new (serving id) 1000).snapshot (serving id) 1005 1005

theorem faithful_iff_db : Faithful (scraped "db") ↔
    ∀ link ∈ (scraped "db").links, Plain link.id ∧ Plain link.mode :=
  faithful_iff (by decide +kernel)

/-- A valid config may have an id with a double quote. -/
theorem quotedId_unfaithful :
    (serving "a\"b").validate .standard = [] ∧ ((scraped "a\"b").links.map (·.id)).Nodup ∧
      ¬ Faithful (scraped "a\"b") := by
  refine ⟨by decide +kernel, by decide +kernel, fun h => ?_⟩
  have hplain : ∀ link ∈ (scraped "a\"b").links, Plain link.id :=
    fun link hlink => (plain_of_faithful h link hlink).1
  exact absurd hplain (by decide +kernel)

end Ghostport.Metrics
