import MemberDiscovery.Deployment.Status
import MemberDiscovery.Proofs.Deployment.Execution
import MemberDiscovery.Proofs.Registry.Contents

/-! # Requests to one registry in memory

A client whose servers are all the same registry in memory makes a request with failover: it is
taken by the first server that has no scheduled failure to answer with, or it is refused after some
of the failures are used up. Nothing but the registry changes.
-/

namespace MemberDiscovery

/-- The client has a server, and every server is the registry in memory with a number. -/
def RegistryClient.ServedBy (client : RegistryClient) (number : Nat) : Prop :=
  client.transports ≠ [] ∧ ∀ server ∈ client.transports, ∃ url, server = .memory number url

/-- Whether a client speaks to a registry, and a test succeeds for it. -/
def Client.speaks (client : Client) (test : RegistryClient → Bool) : Bool :=
  match client with
  | .registry client => test client
  | .scripted _ => false

theorem Client.exists_of_speaks {client : Client} {test : RegistryClient → Bool}
    (hspeaks : client.speaks test = true) :
    ∃ speaker, client = .registry speaker ∧ test speaker = true := by
  cases client with
  | registry speaker => exact ⟨speaker, rfl, hspeaks⟩
  | scripted speaker => cases hspeaks

namespace Registry

variable {α : Type}

/-- What may become of a request with failover and of the registry. -/
inductive Outcome (now : Timestamp) (request : Request α) (before : Registry) :
    Except ClientError α → Registry → Prop where
  /-- The request is taken, and no failure is left. -/
  | taken : Outcome now request before (.ok (before.accept now request).1)
      (before.accept now request).2
  /-- The request fails, at least one failure is used up, and nothing else happens. -/
  | refused (error : ClientError) (left : List ClientError) (hleft : left <:+ before.failures)
      (hless : left.length < before.failures.length) :
      Outcome now request before (.error error) { before with failures := left }

/-- What may happen after one failure may happen before it. -/
theorem Outcome.of_setFailures {now : Timestamp} {request : Request α} {before after : Registry}
    {left : List ClientError} {answer : Except ClientError α} (hleft : left <:+ before.failures)
    (houtcome : Outcome now request { before with failures := left } answer after) :
    Outcome now request before answer after := by
  cases houtcome with
  | taken =>
      rw [accept_setFailures]
      exact .taken
  | refused error rest hrest hless =>
      exact .refused error rest (hrest.trans hleft) (Nat.lt_of_lt_of_le hless hleft.length_le)

/-- A registry without scheduled failures takes every request. -/
theorem Outcome.eq_of_failures_eq_nil {now : Timestamp} {request : Request α}
    {before after : Registry} {answer : Except ClientError α}
    (houtcome : Outcome now request before answer after) (hfailures : before.failures = []) :
    answer = .ok (before.accept now request).1 ∧ after = (before.accept now request).2 := by
  cases houtcome with
  | taken => exact ⟨rfl, rfl⟩
  | refused error left hleft hless => simp [hfailures] at hless

end Registry

namespace Action

variable {α : Type} {registry : Nat}

theorem exec_submit_memory (url : String) (request : Request α) (deployment : Deployment) :
    (submit request (.memory registry url)).exec deployment =
      ((((deployment.registries.get registry).submit deployment.clock request).1),
        deployment.setRegistry registry
          ((deployment.registries.get registry).submit deployment.clock request).2) := rfl

/-- A request that finds no failure is performed and noted. -/
theorem exec_submit_of_failures_eq_nil {deployment : Deployment}
    (hfailures : (deployment.registries.get registry).failures = []) (url : String)
    (request : Request α) :
    (submit request (.memory registry url)).exec deployment =
      (.ok ((deployment.registries.get registry).accept deployment.clock request).1,
        deployment.setRegistry registry
          ((deployment.registries.get registry).accept deployment.clock request).2) := by
  rw [exec_submit_memory, Registry.submit_of_failures_eq_nil _ _ hfailures]

/-- A request that finds a failure takes it. Nothing else changes. -/
theorem exec_submit_of_failures_eq_cons {deployment : Deployment} {error : ClientError}
    {left : List ClientError}
    (hfailures : (deployment.registries.get registry).failures = error :: left) (url : String)
    (request : Request α) :
    (submit request (.memory registry url)).exec deployment =
      (.error error, deployment.setRegistry registry
        { deployment.registries.get registry with failures := left }) := by
  rw [exec_submit_memory, Registry.submit_of_failures_eq_cons _ _ hfailures]

/-- Several servers of one registry in memory: a request is taken or refused by it, or there is no
server, and then the last error stands. -/
theorem exec_askRest_memory (request : Request α) {servers : List Transport}
    (hservers : ∀ server ∈ servers, ∃ url, server = .memory registry url) (attempted : Nat)
    (last : Option ClientError) (deployment : Deployment) :
    (∃ answer after,
      (Failover.askRest (submit request) attempted last servers).exec deployment =
          (answer, deployment.setRegistry registry after) ∧
        Registry.Outcome deployment.clock request (deployment.registries.get registry)
          answer after) ∨
      servers = [] ∧ ∃ error, (Failover.askRest (submit request) attempted last servers).exec
        deployment = (.error error, deployment) := by
  induction servers generalizing attempted last deployment with
  | nil =>
      right
      cases last with
      | none => exact ⟨rfl, .noServiceUrls, rfl⟩
      | some last => exact ⟨rfl, .allServersFailed attempted last, rfl⟩
  | cons server rest ih =>
      left
      obtain ⟨url, rfl⟩ := hservers server List.mem_cons_self
      have hrest : ∀ server ∈ rest, ∃ url, server = .memory registry url := fun server hmem =>
        hservers server (List.mem_cons_of_mem _ hmem)
      rw [Failover.askRest, exec_bind]
      cases hfailures : (deployment.registries.get registry).failures with
      | nil =>
          rw [exec_submit_of_failures_eq_nil hfailures]
          exact ⟨_, _, rfl, .taken⟩
      | cons error left =>
          have hsuffix : left <:+ (deployment.registries.get registry).failures := by
            rw [hfailures]
            exact List.suffix_cons error left
          have hless : left.length < (deployment.registries.get registry).failures.length := by
            simp [hfailures]
          rw [exec_submit_of_failures_eq_cons hfailures]
          by_cases hfatal : error.isFatal = true
          · simp only [if_pos hfatal]
            exact ⟨_, _, rfl, .refused error left hsuffix hless⟩
          · simp only [if_neg hfatal]
            -- The rest of the servers see the registry with one failure less.
            rcases ih hrest (attempted + 1) (some error) (deployment.setRegistry registry
              { deployment.registries.get registry with failures := left }) with
              ⟨answer, after, hexec, houtcome⟩ | ⟨-, last, hexec⟩
            · refine ⟨answer, after, ?_, ?_⟩
              · rw [hexec, Deployment.setRegistry_setRegistry]
              · simp only [Deployment.registries_setRegistry, Slots.get_set, if_pos] at houtcome
                exact houtcome.of_setFailures hsuffix
            · exact ⟨_, _, hexec, .refused last left hsuffix hless⟩

theorem exec_failover_of_servedBy {client : RegistryClient} (hserved : client.ServedBy registry)
    (request : Request α) (deployment : Deployment) :
    ∃ answer after,
      (failover (submit request) client.transports).exec deployment =
          (answer, deployment.setRegistry registry after) ∧
        Registry.Outcome deployment.clock request (deployment.registries.get registry)
          answer after := by
  obtain ⟨hne, hservers⟩ := hserved
  rcases exec_askRest_memory request hservers 0 none deployment with hdone | ⟨hnil, -⟩
  · exact hdone
  · exact absurd hnil hne

theorem exec_failover_of_failures_eq_nil {client : RegistryClient}
    (hserved : client.ServedBy registry) {deployment : Deployment}
    (hfailures : (deployment.registries.get registry).failures = []) (request : Request α) :
    (failover (submit request) client.transports).exec deployment =
      (.ok ((deployment.registries.get registry).accept deployment.clock request).1,
        deployment.setRegistry registry
          ((deployment.registries.get registry).accept deployment.clock request).2) := by
  obtain ⟨answer, after, hexec, houtcome⟩ := exec_failover_of_servedBy hserved request deployment
  obtain ⟨rfl, rfl⟩ := houtcome.eq_of_failures_eq_nil hfailures
  exact hexec

end Action

end MemberDiscovery
