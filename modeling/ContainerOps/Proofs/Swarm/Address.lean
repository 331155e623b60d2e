import ContainerOps.Proofs.Swarm.Order
import ContainerOps.Proofs.Text.Pieces

/-!
# Hosts of addresses

A host can be read out of an address with a port if the two can be told apart.  Brackets around the
host do that for any host that has no closing bracket; without them the host must have no colon of
its own.  The addresses that an inventory gives as URIs are written without brackets, so they are
read back for names and for addresses in dotted form, and not for those with colons.

Main results:

- `splitHost_bracketed`: a host between brackets is read back.
- `splitHost_host_port_iff`: which hosts are read back without brackets.
- `hostUri_read_back_iff`: the URIs of an inventory, and which of them are read back.
- `not_hostUri_read_back`: a leader whose URI is not.
-/

namespace ContainerOps

namespace Swarm

namespace Node

/-! ## Reading a host -/

/-- A host is read behind an opening bracket up to the closing one. -/
theorem splitHost_of_bracket {address : String} {rest : List Char}
    (haddress : address.toList = '[' :: rest) :
    splitHost address =
      match Text.cutAt? ']' rest with
      | some halves => String.ofList halves.1
      | none => String.ofList rest := by
  unfold splitHost
  rw [haddress]
  rfl

/-- An address without an opening bracket is cut at its only colon. -/
theorem splitHost_of_not_bracket {address : String} (hbracket : address.toList.head? ≠ some '[') :
    splitHost address =
      match Text.cutAt? ':' address.toList with
      | some halves => if halves.2.contains ':' then address else String.ofList halves.1
      | none => address := by
  unfold splitHost
  split
  · next rest hrest => simp [hrest] at hbracket
  · rfl

/-- A host between brackets is read back, whatever follows the brackets. -/
theorem splitHost_bracketed {host : String} (hclose : ']' ∉ host.toList) (more : String) :
    splitHost ("[" ++ host ++ "]" ++ more) = host := by
  have haddress : ("[" ++ host ++ "]" ++ more).toList =
      '[' :: (host.toList ++ ']' :: more.toList) := by simp
  rw [splitHost_of_bracket haddress, Text.cutAt?_append_cons hclose]
  exact String.ofList_toList

/-- What is read behind an opening bracket is the front of what stands there. -/
theorem splitHost_isPrefix_of_bracket {address : String} {rest : List Char}
    (haddress : address.toList = '[' :: rest) : (splitHost address).toList <+: rest := by
  rw [splitHost_of_bracket haddress]
  by_cases hclose : ']' ∈ rest
  · obtain ⟨before, after, hrest, hmark⟩ := List.eq_append_cons_of_mem hclose
    rw [hrest, Text.cutAt?_append_cons hmark, String.toList_ofList]
    exact List.prefix_append _ _
  · simp [Text.cutAt?_of_not_mem hclose]

/-- A host that begins with an opening bracket is not read back. -/
theorem splitHost_ne_of_bracket {host : String} (hbracket : host.toList.head? = some '[')
    (port : String) : splitHost (host ++ ":" ++ port) ≠ host := by
  intro hread
  obtain ⟨rest, hhost⟩ : ∃ rest, host.toList = '[' :: rest := List.head?_eq_some_iff.mp hbracket
  have haddress : (host ++ ":" ++ port).toList = '[' :: (rest ++ ':' :: port.toList) := by
    simp [hhost]
  have hstart : '[' :: rest <+: rest ++ ':' :: port.toList := by
    have hfront := splitHost_isPrefix_of_bracket haddress
    rwa [hread, hhost] at hfront
  -- the host would be its own rest and a colon, which has one colon more
  have heq : '[' :: rest = rest ++ [':'] := by
    have htake := List.prefix_iff_eq_take.mp hstart
    rwa [List.length_cons, List.take_append, List.take_of_length_le (by omega),
      Nat.add_sub_cancel_left, List.take_one] at htake
  have hcount := congrArg (List.count ':') heq
  rw [List.count_append, List.count_cons_of_ne (by decide), List.count_singleton_self] at hcount
  omega

/-- A host with a port is read back if it does not begin with a bracket and has no colon. -/
theorem splitHost_host_port_iff {host port : String} (hport : ':' ∉ port.toList) :
    splitHost (host ++ ":" ++ port) = host ↔
      ':' ∉ host.toList ∧ host.toList.head? ≠ some '[' := by
  by_cases hbracket : host.toList.head? = some '['
  · simp [splitHost_ne_of_bracket hbracket port, hbracket]
  have haddress : (host ++ ":" ++ port).toList = host.toList ++ ':' :: port.toList := by simp
  have hfront : (host ++ ":" ++ port).toList.head? ≠ some '[' := by
    rw [haddress, List.head?_append]
    cases hhead : host.toList.head? with
    | none => simp
    | some c => simpa [hhead] using hbracket
  rw [splitHost_of_not_bracket hfront, haddress]
  by_cases hcolon : ':' ∈ host.toList
  · -- the part behind the first colon has another, so nothing is cut off
    obtain ⟨before, after, hhost, hmark⟩ := List.eq_append_cons_of_mem hcolon
    have hcut : Text.cutAt? ':' (host.toList ++ ':' :: port.toList) =
        some (before, after ++ ':' :: port.toList) := by
      rw [hhost, List.append_assoc, List.cons_append]
      exact Text.cutAt?_append_cons hmark _
    have hne : host ++ ":" ++ port ≠ host := by
      intro heq
      have hlength := congrArg (·.toList.length) heq
      simp [haddress] at hlength
    simp [hcut, hcolon, hne]
  · rw [Text.cutAt?_append_cons hcolon]
    simp [hport, hcolon, hbracket]

end Node

/-! ## Hosts of an inventory -/

/-- A port is written without colons. -/
theorem colon_not_mem_port (port : Nat) : ':' ∉ (toString port).toList := by
  intro hmem
  have hdigit : ':' ∈ Nat.toDigits 10 port := by simpa [Nat.repr] using hmem
  have hcolon : (':').isDigit = true :=
    Nat.isDigit_of_mem_toDigits (by decide) (by decide) hdigit
  cases hcolon

variable {c : Config} {nodes : List Node} {i : Inventory}

/-- A known host has a last node. -/
theorem exists_lastNode?_of_build (hbuild : build c nodes = .ok i) {h : String}
    (hknown : h ∈ i.hostvars.keys) : ∃ node, lastNode? nodes h = some node := by
  obtain ⟨node, hnode, hid⟩ := (mem_hostvars_build hbuild h).mp hknown
  cases hlast : lastNode? nodes h with
  | some last => exact ⟨last, rfl⟩
  | none =>
    have hnone := List.find?_eq_none.mp hlast node (List.mem_reverse.mpr hnode)
    exact absurd (decide_eq_true hid) hnone

/-- The URI of a host is its address and the port that is set up.  The address is read back from the
URI exactly if it does not begin with a bracket and has no colon, as names and addresses in dotted
form do. -/
theorem hostUri_read_back_iff (hbuild : build c nodes = .ok i) (huri : c.includeHostUri = true) :
    ∀ h ∈ i.hostvars.keys, ∃ address,
      i.variableOf h "ansible_host" = some (.string address) ∧
      i.variableOf h "ansible_host_uri" =
        some (.string ("tcp://" ++ (address ++ ":" ++ toString c.hostPort))) ∧
      (Node.splitHost (address ++ ":" ++ toString c.hostPort) = address ↔
        ':' ∉ address.toList ∧ address.toList.head? ≠ some '[') := by
  intro h hknown
  obtain ⟨node, hnode⟩ := exists_lastNode?_of_build hbuild hknown
  refine ⟨node.reachableAddress, ?_, ?_, Node.splitHost_host_port_iff (colon_not_mem_port _)⟩
  · rw [variableOf_build hbuild, hnode]
    rfl
  · rw [variableOf_build hbuild, hnode, Option.bind_some, hostVariable?, if_neg (by decide),
      if_pos ⟨rfl, huri⟩]
    simp only [String.append_assoc]

/-- A leader that is reached at the host of its manager address, in dotted form, and a worker that
is reached by its name. -/
theorem hostUri_read_back_of_name :
    ∃ (c : Config) (leader worker : Node) (i : Inventory),
      build c [leader, worker] = .ok i ∧ c.includeHostUri = true ∧
      i.variableOf leader.id "ansible_host_uri" = some (.string "tcp://10.0.0.9:4243") ∧
      Node.splitHost "10.0.0.9:4243" = "10.0.0.9" ∧
      i.variableOf worker.id "ansible_host_uri" = some (.string "tcp://worker-1:4243") ∧
      Node.splitHost "worker-1:4243" = "worker-1" := by
  obtain ⟨leader, hleader⟩ : ∃ node : Node, node =
      { id := "a", role := .manager, address := "0.0.0.0"
        managerStatus := some { leader := true, address := "10.0.0.9:2377" }
        attributes := .object [] } := ⟨_, rfl⟩
  obtain ⟨worker, hworker⟩ : ∃ node : Node, node =
      { id := "b", role := .worker, address := "worker-1", managerStatus := none
        attributes := .object [] } := ⟨_, rfl⟩
  obtain ⟨c, hc⟩ : ∃ c : Config, c =
      { plugin := "docker_swarm", dockerHost := "", verboseOutput := false, tls := true
        validateCerts := false, clientKey := none, caPath := none, clientCert := none
        tlsHostname := none, sslVersion := none, apiVersion := none, timeout := 60
        useSshClient := false, includeHostUri := true, includeHostUriPort := some 4243
        strict := false, keyedGroups := [] } := ⟨_, rfl⟩
  have huri : c.includeHostUri = true := by rw [hc]
  have hport : toString c.hostPort = "4243" := by
    rw [hc]
    decide
  obtain ⟨i, hbuild⟩ : ∃ i, build c [leader, worker] = .ok i := by
    rw [exists_build_iff, hc]
    simp
  have hread : ∀ h address, h ∈ i.hostvars.keys →
      i.variableOf h "ansible_host" = some (.string address) → ':' ∉ address.toList →
      address.toList.head? ≠ some '[' →
      i.variableOf h "ansible_host_uri" = some (.string ("tcp://" ++ (address ++ ":4243"))) ∧
        Node.splitHost (address ++ ":4243") = address := by
    intro h address hknown haddress hcolon hbracket
    obtain ⟨address', haddress', hvalue, hiff⟩ := hostUri_read_back_iff hbuild huri h hknown
    obtain rfl : address = address' := by
      simpa using haddress.symm.trans haddress'
    rw [hport, String.append_assoc] at hvalue hiff
    exact ⟨hvalue, hiff.mpr ⟨hcolon, hbracket⟩⟩
  have hleaderRead := hread leader.id "10.0.0.9"
    ((mem_hostvars_build hbuild _).mpr ⟨leader, by simp, rfl⟩)
    (by rw [variableOf_build hbuild, hleader, hworker]; rfl) (by decide) (by decide)
  have hworkerRead := hread worker.id "worker-1"
    ((mem_hostvars_build hbuild _).mpr ⟨worker, by simp, rfl⟩)
    (by rw [variableOf_build hbuild, hleader, hworker]; rfl) (by decide) (by decide)
  exact ⟨c, leader, worker, i, hbuild, huri, hleaderRead.1, hleaderRead.2, hworkerRead.1,
    hworkerRead.2⟩

/-- A leader whose manager address has its host between brackets.  The brackets are taken off and
not put back in front of the port, so that the host is not read back from its URI; with them it
would be. -/
theorem not_hostUri_read_back :
    ∃ (c : Config) (leader : Node) (i : Inventory),
      c.includeHostUri = true ∧ build c [leader] = .ok i ∧
      leader.managerStatus = some { leader := true, address := "[fe80::1]:2377" } ∧
      i.variableOf leader.id "ansible_host" = some (.string "fe80::1") ∧
      i.variableOf leader.id "ansible_host_uri" = some (.string "tcp://fe80::1:2375") ∧
      Node.splitHost "fe80::1:2375" ≠ "fe80::1" ∧
      Node.splitHost "[fe80::1]:2375" = "fe80::1" := by
  obtain ⟨leader, hleader⟩ : ∃ node : Node, node =
      { id := "m1", role := .manager, address := "0.0.0.0"
        managerStatus := some { leader := true, address := "[fe80::1]:2377" }
        attributes := .object [] } := ⟨_, rfl⟩
  obtain ⟨c, hc⟩ : ∃ c : Config, c =
      { plugin := "docker_swarm", dockerHost := "tcp://swarm:2375", verboseOutput := false
        tls := false, validateCerts := false, clientKey := none, caPath := none
        clientCert := none, tlsHostname := none, sslVersion := none, apiVersion := none
        timeout := 60, useSshClient := false, includeHostUri := true
        includeHostUriPort := none, strict := false, keyedGroups := [] } := ⟨_, rfl⟩
  obtain ⟨i, hbuild⟩ : ∃ i, build c [leader] = .ok i := by
    rw [exists_build_iff, hc]
    simp
  have hread : Node.splitHost ("fe80::1" ++ ":" ++ "2375") ≠ "fe80::1" := fun hsame =>
    absurd ((Node.splitHost_host_port_iff (by decide)).mp hsame).1 (by decide)
  have hbracketed : Node.splitHost ("[" ++ "fe80::1" ++ "]" ++ ":2375") = "fe80::1" :=
    Node.splitHost_bracketed (by decide) ":2375"
  refine ⟨c, leader, i, by rw [hc], hbuild, by rw [hleader], ?_, ?_, hread, hbracketed⟩
  · rw [variableOf_build hbuild, hleader]
    rfl
  · rw [variableOf_build hbuild, hleader, hc]
    rfl

end Swarm

end ContainerOps
