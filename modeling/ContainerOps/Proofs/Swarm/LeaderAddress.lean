import ContainerOps.Proofs.Swarm.Address

/-!
# Where a node is reached

A manager address names a host in one of three ways: in front of a port, between brackets in front
of a port, or alone.  A leader is reached at the host that its manager address names, and at the
address that it reports only where the manager address names none.

Main results:

- `Names.splitHost_eq`: a host is read from every address that names it.
- `splitHost_eq_self_iff`: a host that stands alone is read unless it has exactly one colon.
- `splitHost_eq_empty_iff`: the addresses that no host is read from.
- `reached_at_named_host`: where a node is reached.
-/

namespace ContainerOps.Swarm.Node

open ContainerOps.Text

/-! ## Addresses with a host -/

/-- A host that an address can name: it is not empty, and no bracket is in it. -/
structure IsHost (host : String) : Prop where
  /-- It is not empty. -/
  ne_empty : host ≠ ""
  /-- No bracket opens in it. -/
  not_opened : '[' ∉ host.toList
  /-- No bracket closes in it. -/
  not_closed : ']' ∉ host.toList

/-- An address names a host: in front of a port, if the host has no colon; between brackets in
front of a port; or alone, if it does not look like a host in front of a port. -/
inductive Names (host : String) : String → Prop where
  | withPort {port : String} (hhost : ':' ∉ host.toList) (hport : ':' ∉ port.toList) :
      Names host (host ++ ":" ++ port)
  | bracketed {port : String} (hport : ':' ∉ port.toList) : Names host ("[" ++ host ++ "]:" ++ port)
  | alone (hcolons : host.toList.count ':' ≠ 1) : Names host host

/-- A host does not begin with an opening bracket. -/
theorem IsHost.head?_ne {host : String} (hhost : IsHost host) : host.toList.head? ≠ some '[' :=
  fun hhead => hhost.not_opened (List.mem_of_head? hhead)

/-- A text that does not begin with a bracket is read as a host unless it has exactly one colon. -/
theorem splitHost_eq_self_iff {host : String} (hbracket : host.toList.head? ≠ some '[') :
    splitHost host = host ↔ host.toList.count ':' ≠ 1 := by
  rw [splitHost_of_not_bracket hbracket]
  by_cases hcolon : ':' ∈ host.toList
  · obtain ⟨before, after, hhost, hbefore⟩ := List.eq_append_cons_of_mem hcolon
    have hcount : host.toList.count ':' = after.count ':' + 1 := by
      rw [hhost, List.count_append, List.count_eq_zero_of_not_mem hbefore, List.count_cons_self,
        Nat.zero_add]
    have hcut : cutAt? ':' host.toList = some (before, after) := by
      rw [hhost]
      exact cutAt?_append_cons hbefore after
    have hne : String.ofList before ≠ host := by
      intro heq
      have hlength := congrArg (·.toList.length) heq
      simp [hhost] at hlength
    rw [hcut, hcount]
    by_cases hafter : ':' ∈ after
    · have hmore : after.count ':' ≠ 0 := Nat.pos_iff_ne_zero.mp (List.count_pos_iff.mpr hafter)
      simp [hafter, hmore]
    · simp [hafter, hne, List.count_eq_zero_of_not_mem hafter]
  · simp [cutAt?_of_not_mem hcolon, List.count_eq_zero_of_not_mem hcolon]

/-- A host is read from every address that names it. -/
theorem Names.splitHost_eq {host address : String} (hhost : IsHost host)
    (hnames : Names host address) : splitHost address = host := by
  cases hnames with
  | withPort hcolon hport => exact (splitHost_host_port_iff hport).mpr ⟨hcolon, hhost.head?_ne⟩
  | @bracketed port =>
    have hread := splitHost_bracketed hhost.not_closed (":" ++ port)
    have haddress : "[" ++ host ++ "]" ++ (":" ++ port) = "[" ++ host ++ "]:" ++ port := by
      rw [← String.toList_inj]
      simp
    rwa [haddress] at hread
  | alone hcolons => exact (splitHost_eq_self_iff hhost.head?_ne).mpr hcolons

/-! ## Addresses without a host -/

/-- An address that names no host: it is empty, a bracket opens and nothing follows, the brackets
are empty, or there is only a port. -/
inductive IsHostless : String → Prop where
  | empty : IsHostless ""
  | opened : IsHostless "["
  | brackets (rest : String) : IsHostless ("[]" ++ rest)
  | onlyPort {port : String} (hport : ':' ∉ port.toList) : IsHostless (":" ++ port)

/-- Behind an opening bracket no host is read where nothing follows, or a closing one. -/
theorem isHostless_of_bracket {address : String} (hbracket : address.toList.head? = some '[')
    (hempty : splitHost address = "") : IsHostless address := by
  obtain ⟨rest, haddress⟩ : ∃ rest, address.toList = '[' :: rest :=
    List.head?_eq_some_iff.mp hbracket
  rw [splitHost_of_bracket haddress] at hempty
  by_cases hclose : ']' ∈ rest
  · obtain ⟨before, after, rfl, hbefore⟩ := List.eq_append_cons_of_mem hclose
    simp only [cutAt?_append_cons hbefore] at hempty
    obtain rfl : before = [] := String.ofList_eq_empty_iff.mp hempty
    obtain rfl : address = "[]" ++ String.ofList after := by
      rw [← String.toList_inj]
      simpa using haddress
    exact .brackets _
  · simp only [cutAt?_of_not_mem hclose] at hempty
    obtain rfl : rest = [] := String.ofList_eq_empty_iff.mp hempty
    obtain rfl : address = "[" := String.toList_inj.mp haddress
    exact .opened

/-- Without a bracket no host is read where there is nothing in front of the only colon. -/
theorem isHostless_of_not_bracket {address : String} (hbracket : address.toList.head? ≠ some '[')
    (hempty : splitHost address = "") : IsHostless address := by
  have hnil : address = "" → IsHostless address := fun h => h ▸ .empty
  rw [splitHost_of_not_bracket hbracket] at hempty
  by_cases hcolon : ':' ∈ address.toList
  · obtain ⟨before, after, haddress, hbefore⟩ := List.eq_append_cons_of_mem hcolon
    simp only [haddress, cutAt?_append_cons hbefore] at hempty
    split at hempty
    · exact hnil hempty
    · next hafter =>
      obtain rfl : before = [] := String.ofList_eq_empty_iff.mp hempty
      obtain rfl : address = ":" ++ String.ofList after := by
        rw [← String.toList_inj]
        simpa using haddress
      exact .onlyPort (by simpa using hafter)
  · simp only [cutAt?_of_not_mem hcolon] at hempty
    exact hnil hempty

/-- No host is read exactly from the addresses that name none. -/
theorem splitHost_eq_empty_iff {address : String} :
    splitHost address = "" ↔ IsHostless address := by
  constructor
  · intro hempty
    by_cases hbracket : address.toList.head? = some '['
    · exact isHostless_of_bracket hbracket hempty
    · exact isHostless_of_not_bracket hbracket hempty
  · intro hhostless
    cases hhostless with
    | empty => rfl
    | opened => rfl
    | brackets rest =>
      have hclose : ']' ∉ "".toList := by simp
      exact splitHost_bracketed hclose rest
    | @onlyPort port hport =>
      have hread : splitHost ("" ++ ":" ++ port) = "" :=
        (splitHost_host_port_iff hport).mpr (by simp)
      exact hread

/-! ## Nodes -/

variable {n : Node}

/-- A leader is a node whose status as a manager says so. -/
theorem isLeader_iff : n.isLeader = true ↔ ∃ s, n.managerStatus = some s ∧ s.leader = true := by
  unfold isLeader
  split
  · next s hs => simp [hs]
  · next hs => simp [hs]

/-- A leader is reached at the host of its manager address, if there is one. -/
theorem reachableAddress_of_leader {s : ManagerStatus} (hstatus : n.managerStatus = some s)
    (hleader : s.leader = true) :
    n.reachableAddress = if splitHost s.address = "" then n.address else splitHost s.address := by
  simp [reachableAddress, hstatus, hleader]

/-- A host is read from every address that names it, and from itself alone unless it has exactly
one colon.  A node that is no leader is reached at the address that it reports.  A leader is reached
at the host that its manager address names; the address that it reports takes the place only of a
host that is empty, as it is in addresses that name none.  So no node is reached at an empty address
unless it reports one. -/
theorem reached_at_named_host :
    (∀ host, IsHost host →
      (∀ address, Names host address → splitHost address = host) ∧
        (splitHost host = host ↔ host.toList.count ':' ≠ 1)) ∧
      ∀ n : Node,
        (n.isLeader = false → n.reachableAddress = n.address) ∧
        (n.isLeader = true → ∃ s, n.managerStatus = some s ∧
          (n.reachableAddress =
            if splitHost s.address = "" then n.address else splitHost s.address) ∧
          (splitHost s.address = "" ↔ IsHostless s.address) ∧
          ∀ host, IsHost host → Names host s.address → n.reachableAddress = host) ∧
        (n.reachableAddress = "" → n.address = "") := by
  refine ⟨fun host hhost => ⟨fun _ hnames => hnames.splitHost_eq hhost,
    splitHost_eq_self_iff hhost.head?_ne⟩, fun n => ⟨reachableAddress_of_not_leader, ?_, ?_⟩⟩
  · intro hleader
    obtain ⟨s, hstatus, hleads⟩ := isLeader_iff.mp hleader
    have hreached := reachableAddress_of_leader hstatus hleads
    refine ⟨s, hstatus, hreached, splitHost_eq_empty_iff, fun host hhost hnames => ?_⟩
    rw [hreached, hnames.splitHost_eq hhost, if_neg hhost.ne_empty]
  · intro hempty
    by_cases hleader : n.isLeader = true
    · obtain ⟨s, hstatus, hleads⟩ := isLeader_iff.mp hleader
      rw [reachableAddress_of_leader hstatus hleads] at hempty
      split at hempty
      · exact hempty
      · next hhost => exact absurd hempty hhost
    · rwa [reachableAddress_of_not_leader (by simpa using hleader)] at hempty

/-- A node with an address of its own and one that it reports as a manager. -/
def managerAt (leader : Bool) (address : String) : Node :=
  { id := "m1", role := .manager, address := "10.0.0.5"
    managerStatus := some { leader := leader, address := address }, attributes := .object [] }

/-- A leader is reached at the host between the brackets, but at the address that it reports where
there is only a port; another manager is reached at the address that it reports in any case. -/
theorem reached_at_named_host_of_managers :
    splitHost "fe80::1" = "fe80::1" ∧ splitHost "m:2377" = "m" ∧
      (managerAt true "[fe80::1]:2377").reachableAddress = "fe80::1" ∧
      (managerAt true ":2377").reachableAddress = "10.0.0.5" ∧
      (managerAt false "[fe80::1]:2377").reachableAddress = "10.0.0.5" := by
  obtain ⟨hhosts, hnodes⟩ := reached_at_named_host
  have hsix : IsHost "fe80::1" := ⟨by decide, by decide, by decide⟩
  have hname : IsHost "m" := ⟨by decide, by decide, by decide⟩
  have hport : ':' ∉ "2377".toList := by decide
  refine ⟨(hhosts "fe80::1" hsix).2.mpr (by decide),
    (hhosts "m" hname).1 _ (.withPort (by decide) hport), ?_, ?_,
    (hnodes (managerAt false "[fe80::1]:2377")).1 rfl⟩
  · obtain ⟨s, hstatus, -, -, hread⟩ := (hnodes (managerAt true "[fe80::1]:2377")).2.1 rfl
    cases hstatus
    exact hread "fe80::1" hsix (.bracketed hport)
  · obtain ⟨s, hstatus, hreached, hempty, -⟩ := (hnodes (managerAt true ":2377")).2.1 rfl
    cases hstatus
    rw [hreached, if_pos (hempty.mpr (.onlyPort hport))]
    rfl

end ContainerOps.Swarm.Node
