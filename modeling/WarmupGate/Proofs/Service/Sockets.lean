import WarmupGate.Proofs.Net.Address
import WarmupGate.Proofs.Settings.Edit
import WarmupGate.Service.Sockets

/-!
# Two servers at one socket

Settings are refused if metrics and probes are to be served at one port under one host. The hosts
are compared as texts, and the servers listen at addresses: a metrics host that is no address stands
for every interface, and an address of the colon form has several spellings. So both servers may get
one socket from settings that were accepted; this says exactly when. A dotted metrics host rules it
out. Whether the machine gives a socket twice is not said here.
-/
namespace WarmupGate.Service

variable {s : Settings} {e : Endpoint} {p : Net.Socket}

/-- The two hosts are spelled differently and still come to one address. -/
inductive Alias (metrics probes : String) : Prop
  /-- What is no address stands for every interface, as the dotted address of zeros does. -/
  | unread : Net.Address.read? metrics.toList = none → probes = "0.0.0.0" → Alias metrics probes
  /-- Two spellings of one address of the colon form. -/
  | respelled (groups : List Nat) : metrics ≠ probes →
      Net.Address.read? metrics.toList = some (.v6 groups) →
      Net.Address.read? probes.toList = some (.v6 groups) → Alias metrics probes

theorem read?_zeros : Net.Address.read? "0.0.0.0".toList = some .unspecified := by
  decide

theorem eq_zeros_of_read? {host : String}
    (h : Net.Address.read? host.toList = some .unspecified) : host = "0.0.0.0" := by
  apply String.toList_injective
  rw [← Net.Address.v4Text_of_read? h]
  decide

theorem hosts_ne_of_accepted (accepted : s.check = .ok ()) (served : s.metrics = some e)
    (port : e.port = s.health.port) : e.host ≠ s.health.host := by
  intro host
  have kept := (Settings.follows_check s).ok_iff.1 accepted .serversApart (by decide)
  exact kept e served ⟨host, port⟩

/-- Servers of accepted settings get one socket exactly if they are at one port and their hosts are
one address by two names. -/
theorem sockets_meet_iff (accepted : s.check = .ok ()) (served : s.metrics = some e)
    (probed : Probe.socket? s.health = some p) :
    MetricsServer.socket e = p ↔ e.port = s.health.port ∧ Alias e.host s.health.host := by
  obtain ⟨a, read, rfl⟩ := Option.map_eq_some_iff.1 probed
  rw [MetricsServer.socket, Net.Socket.mk.injEq, and_comm]
  refine and_congr_right fun port => ?_
  have differ := hosts_ne_of_accepted accepted served port
  constructor
  · intro same
    cases metrics : Net.Address.read? e.host.toList with
    | none =>
      rw [metrics, Option.getD_none] at same
      exact .unread metrics (eq_zeros_of_read? (same ▸ read))
    | some b =>
      rw [metrics, Option.getD_some] at same
      subst same
      obtain spelled | ⟨groups, rfl⟩ := Net.Address.eq_or_v6_of_read? metrics read
      · exact absurd (String.toList_injective spelled) differ
      · exact .respelled groups differ metrics read
  · intro renamed
    cases renamed with
    | unread metrics zeros =>
      rw [zeros, read?_zeros] at read
      rw [metrics, Option.getD_none, Option.some.inj read]
    | respelled groups _ metrics probes =>
      rw [metrics, Option.getD_some, Option.some.inj (probes.symm.trans read)]

def respelled : Settings :=
  { metrics := some ⟨9000, "::1"⟩, health := ⟨9000, "0:0::0:1"⟩ }

theorem sockets_meet_respelled : respelled.check = .ok () ∧
    MetricsServer.socket ⟨9000, "::1"⟩ = ⟨.v6 [0, 0, 0, 0, 0, 0, 0, 1], 9000⟩ := by
  have accepted : respelled.check = .ok () := rfl
  refine ⟨accepted, (sockets_meet_iff accepted rfl (by decide)).2 ⟨rfl, ?_⟩⟩
  exact .respelled [0, 0, 0, 0, 0, 0, 0, 1] (by decide) (by decide) (by decide)

/-- The metrics host is a name and the probes are served everywhere. -/
def byName : Settings :=
  { metrics := some ⟨9000, "localhost"⟩, health := ⟨9000, "0.0.0.0"⟩ }

/-- Accepted settings may give both servers one socket. -/
theorem sockets_meet_by_name : byName.check = .ok () ∧
    byName.metrics.map MetricsServer.socket = Probe.socket? byName.health ∧
    Probe.socket? byName.health = some ⟨.unspecified, 9000⟩ :=
  ⟨rfl, by decide, by decide⟩

end WarmupGate.Service
