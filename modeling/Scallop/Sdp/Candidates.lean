import Scallop.Lib.Except
import Scallop.Sdp

/-!
# Candidates

* `ICECandidate.HasAddress`, `ICECandidate.inSubnet`, `inside` : the candidates inside of a subnet;
* `Best` : a candidate with maximal priority;
* `filterCandidatesBySubnet_ok`, `highestPriorityICECandidate_best` : what the filter and the choice come to;
* `ICECandidate.endpoint?` : the address and port of a candidate.
-/

namespace Scallop

theorem IPv4.invalid_of_error {s : String} {e : Fault} (h : IPv4.ofString s = .error e) :
    e = .invalidArgument ("net::IPv4: invalid address: " ++ s) := by
  unfold IPv4.ofString at h
  split at h
  · split at h
    · exact nomatch h
    · exact (Except.error.inj h).symm
  · exact (Except.error.inj h).symm

namespace Sdp

def ICECandidate.HasAddress (c : ICECandidate) : Prop := ∃ ip, IPv4.ofString c.address = .ok ip

/-- The address and port of a candidate, if they can be read. -/
def ICECandidate.endpoint? (c : ICECandidate) : Option IPv4Port :=
  match IPv4.ofString c.address with
  | .ok ip => some { ip, port := c.port }
  | .error _ => none

def ICECandidate.inSubnet (net : IPv4Prefix) (c : ICECandidate) : Bool :=
  match IPv4.ofString c.address with
  | .ok ip => IPv4.isInSubnet ip net.ip net.prefixLength
  | .error _ => false

def inside (net : IPv4Prefix) (cs : List ICECandidate) : List ICECandidate := cs.filter (·.inSubnet net)

structure Best (cs : List ICECandidate) (c : ICECandidate) : Prop where
  mem : c ∈ cs
  maximal : ∀ c' ∈ cs, c'.priority ≤ c.priority

section Filter
variable {net : IPv4Prefix} {cs filtered : List ICECandidate} {c : ICECandidate}

theorem mem_inside : c ∈ inside net cs ↔ c ∈ cs ∧ c.inSubnet net = true := List.mem_filter

theorem ICECandidate.hasAddress_of_inSubnet (h : c.inSubnet net = true) : c.HasAddress := by
  unfold ICECandidate.inSubnet at h
  split at h
  · exact ⟨_, ‹_›⟩
  · exact nomatch h

theorem filterCandidatesBySubnet_ok (h : ∀ c ∈ cs, c.HasAddress) :
    filterCandidatesBySubnet cs net = .ok (inside net cs) := by
  unfold filterCandidatesBySubnet inside
  apply Except.filterM_ok
  intro c hc
  obtain ⟨ip, hip⟩ := h c hc
  unfold ICECandidate.inSubnet
  rw [hip]
  rfl

theorem filterCandidatesBySubnet_hasAddress (h : filterCandidatesBySubnet cs net = .ok filtered) (hc : c ∈ cs) :
    c.HasAddress := by
  unfold filterCandidatesBySubnet at h
  obtain ⟨b, hb⟩ := Except.of_filterM_ok h hc
  obtain ⟨ip, hip, -⟩ := Except.of_bind_ok hb
  exact ⟨ip, hip⟩

theorem filterCandidatesBySubnet_error {e : Fault} (h : filterCandidatesBySubnet cs net = .error e) :
    ∃ c ∈ cs, e = .invalidArgument ("net::IPv4: invalid address: " ++ c.address) := by
  unfold filterCandidatesBySubnet at h
  obtain ⟨c, hc, hce⟩ := Except.of_filterM_error h
  rcases Except.of_bind_error hce with hip | ⟨ip, -, hip⟩
  · exact ⟨c, hc, IPv4.invalid_of_error hip⟩
  · exact nomatch hip

end Filter

/-! ## The choice -/

section Choice
variable {cs seen : List ICECandidate} {c best : ICECandidate}

theorem best_foldl (cs : List ICECandidate) (h : Best seen best) : Best (seen ++ cs)
    (cs.foldl (fun best c => if best.priority < c.priority then c else best) best) := by
  induction cs generalizing seen best with
  | nil => rwa [List.append_nil]
  | cons c cs ih =>
      have hnext : Best (seen ++ [c]) (if best.priority < c.priority then c else best) := by
        split
        · refine ⟨List.mem_append_right _ List.mem_cons_self, fun c' hc' => ?_⟩
          rcases List.mem_append.mp hc' with hc' | hc'
          · exact (h.maximal c' hc').trans (by omega)
          · rw [List.mem_singleton.mp hc']
        · refine ⟨List.mem_append_left _ h.mem, fun c' hc' => ?_⟩
          rcases List.mem_append.mp hc' with hc' | hc'
          · exact h.maximal c' hc'
          · rw [List.mem_singleton.mp hc']
            omega
      have hrest := ih hnext
      rwa [List.append_assoc] at hrest

theorem highestPriorityICECandidate_best (h : highestPriorityICECandidate cs = some c) : Best cs c := by
  cases cs with
  | nil => exact nomatch h
  | cons c₀ cs =>
      obtain rfl := Option.some.inj h
      have hfirst : Best [c₀] c₀ := by
        refine ⟨List.mem_cons_self, fun c' hc' => ?_⟩
        rw [List.mem_singleton.mp hc']
      exact best_foldl cs hfirst

theorem highestPriorityICECandidate_eq_none : highestPriorityICECandidate cs = none ↔ cs = [] := by
  cases cs with
  | nil => exact ⟨fun _ => rfl, fun _ => rfl⟩
  | cons c cs => exact ⟨fun h => (nomatch h), fun h => (nomatch h)⟩

end Choice

end Sdp

end Scallop
