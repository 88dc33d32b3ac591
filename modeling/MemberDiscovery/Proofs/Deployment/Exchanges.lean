import MemberDiscovery.Deployment.Exchange
import MemberDiscovery.Proofs.Deployment.Execution

/-! # Calls over the network

A call changes at most the network and what is noted, and so does everything that is made of calls
only: asking a provider for metadata and reading the configuration of a record. What is noted on the
way are queries of the provider and messages.
-/

namespace MemberDiscovery

/-- What may be noted while a record is set up. All calls among it ask a provider for metadata. -/
def Event.OfSetup : Event → Prop
  | .logged _ _ _ => True
  | .statusNoted _ => True
  | .called call => ∃ url, call = ((HttpCall.plain "GET").route none url).2
  | .slept _ => False
  | .statusChanged _ _ => False
  | .lookedUp _ => False
  | .stopped => False

/-- What was noted, followed by what may be noted while a record is set up. -/
def SetupNoted (before after : List Event) : Prop :=
  ∃ notes, after = before ++ notes ∧ ∀ note ∈ notes, note.OfSetup

namespace SetupNoted

theorem refl (trace : List Event) : SetupNoted trace trace :=
  ⟨[], (List.append_nil trace).symm, by simp⟩

theorem trans {before middle after : List Event} (hfirst : SetupNoted before middle)
    (hsecond : SetupNoted middle after) : SetupNoted before after := by
  obtain ⟨first, rfl, hfirst⟩ := hfirst
  obtain ⟨second, rfl, hsecond⟩ := hsecond
  refine ⟨first ++ second, List.append_assoc before first second, ?_⟩
  intro note hmem
  rcases List.mem_append.mp hmem with hmem | hmem
  · exact hfirst note hmem
  · exact hsecond note hmem

theorem snoc {before after : List Event} {event : Event} (hnoted : SetupNoted before after)
    (hevent : event.OfSetup) : SetupNoted before (after ++ [event]) :=
  hnoted.trans ⟨[event], rfl, by simpa using hevent⟩

end SetupNoted

namespace Action

theorem exec_exchange (proxy : Option HttpProxy) (url : Url) (call : HttpCall)
    (deployment : Deployment) :
    ∃ reply network trace, (exchange proxy url call).exec deployment =
        (reply, { deployment with network, trace }) ∧
      (trace = deployment.trace ∨
        trace = deployment.trace ++ [.called (call.route proxy url).2]) := by
  unfold exchange
  rw [exec_bind, exec_get]
  dsimp only
  rw [exec_ite]
  split
  next => exact ⟨_, _, _, rfl, .inr rfl⟩
  next => exact ⟨none, deployment.network, deployment.trace, rfl, .inl rfl⟩

theorem exec_askProvider (base : String) (sofar : Table String) (keys : List (String × String))
    (deployment : Deployment) :
    ∃ metadata network trace, (askProvider base sofar keys).exec deployment =
        (metadata, { deployment with network, trace }) ∧
      SetupNoted deployment.trace trace := by
  induction keys generalizing sofar deployment with
  | nil => exact ⟨_, deployment.network, deployment.trace, rfl, .refl _⟩
  | cons entry rest ih =>
      obtain ⟨path, key⟩ := entry
      unfold askProvider
      split
      next => exact ⟨none, deployment.network, deployment.trace, rfl, .refl _⟩
      next url hurl =>
        obtain ⟨reply, network, trace, hexec, htrace⟩ :=
          exec_exchange none url (HttpCall.plain "GET") deployment
        have hnoted : SetupNoted deployment.trace trace := by
          rcases htrace with rfl | rfl
          · exact .refl _
          · exact (SetupNoted.refl _).snoc ⟨url, rfl⟩
        rw [exec_bind, hexec]
        cases reply with
        | none => exact ⟨none, network, trace, rfl, hnoted⟩
        | some reply =>
            -- The other keys are asked for whether or not there is a value of this one.
            have hrest := fun sofar => ih sofar { deployment with network, trace }
            dsimp only
            split
            next =>
              obtain ⟨metadata, network, trace, hexec, hlater⟩ := hrest _
              exact ⟨metadata, network, trace, hexec, hnoted.trans hlater⟩
            next =>
              obtain ⟨metadata, network, trace, hexec, hlater⟩ := hrest _
              exact ⟨metadata, network, trace, hexec, hnoted.trans hlater⟩

theorem exec_providerMetadata (url : String) (deployment : Deployment) :
    ∃ metadata network trace, (providerMetadata url).exec deployment =
        (metadata, { deployment with network, trace }) ∧
      SetupNoted deployment.trace trace := by
  obtain ⟨found, network, trace, hexec, hnoted⟩ := exec_askProvider
    (String.ofList (Text.dropTrailing (· = '/') url.toList)) ∅ providerKeys deployment
  unfold providerMetadata
  rw [exec_bind, hexec]
  cases found with
  | some metadata => exact ⟨metadata, network, trace, rfl, hnoted⟩
  | none => exact ⟨_, network, _, rfl, hnoted.snoc trivial⟩

/-- The configuration of a record is read from its properties, and perhaps taken from a provider. -/
theorem exec_readInstanceConfig (flavor : DataCenterFlavor) (scope : Scope)
    (deployment : Deployment) :
    ∃ answer network trace, (readInstanceConfig flavor scope).exec deployment =
        (answer, { deployment with network, trace }) ∧
      SetupNoted deployment.trace trace ∧
      ∀ config, answer = .ok config → ∃ read,
        InstanceConfig.ofScope deployment.machine scope = .ok read ∧
          (config = read ∨ ∃ metadata, config = read.withProviderMetadata metadata) := by
  unfold readInstanceConfig
  simp only [exec_bind, exec_get]
  cases hread : InstanceConfig.ofScope deployment.machine scope with
  | error error =>
      refine ⟨.error error, deployment.network, deployment.trace, rfl, .refl _, ?_⟩
      intro config hconfig
      cases hconfig
  | ok read =>
      cases flavor with
      | generic =>
          refine ⟨.ok read, deployment.network, deployment.trace, rfl, .refl _, ?_⟩
          intro config hconfig
          cases hconfig
          exact ⟨read, rfl, .inl rfl⟩
      | cloud =>
          obtain ⟨metadata, network, trace, hexec, hnoted⟩ := exec_providerMetadata
            (scope.text "amazon.metadataUrl" providerUrl) deployment
          refine ⟨.ok (read.withProviderMetadata metadata), network, trace, ?_, hnoted,
            fun config hconfig => ?_⟩
          · simp only [exec_bind, hexec, exec_pure]
          · cases hconfig
            exact ⟨read, rfl, .inr ⟨metadata, rfl⟩⟩

/-! ## What the answers depend on

What a provider answers depends on the network only, and what is read of a configuration on the
network and the machine. Neither the time nor what was noted before matters.
-/

variable {left right : Deployment}

theorem exchange_congr (hnetwork : left.network = right.network) (proxy : Option HttpProxy)
    (url : Url) (call : HttpCall) :
    ((exchange proxy url call).exec left).1 = ((exchange proxy url call).exec right).1 ∧
      ((exchange proxy url call).exec left).2.network =
        ((exchange proxy url call).exec right).2.network := by
  unfold exchange
  rw [exec_bind, exec_bind, exec_get, exec_get]
  dsimp only
  rw [exec_ite, exec_ite, hnetwork]
  split
  next => exact ⟨rfl, rfl⟩
  next => exact ⟨rfl, hnetwork⟩

theorem askProvider_congr (base : String) (sofar : Table String) (keys : List (String × String))
    (hnetwork : left.network = right.network) :
    ((askProvider base sofar keys).exec left).1 = ((askProvider base sofar keys).exec right).1 ∧
      ((askProvider base sofar keys).exec left).2.network =
        ((askProvider base sofar keys).exec right).2.network := by
  induction keys generalizing sofar left right with
  | nil => exact ⟨rfl, hnetwork⟩
  | cons entry rest ih =>
      obtain ⟨path, key⟩ := entry
      unfold askProvider
      split
      next => exact ⟨rfl, hnetwork⟩
      next url hurl =>
        obtain ⟨hreply, hafter⟩ := exchange_congr hnetwork none url (HttpCall.plain "GET")
        rw [exec_bind, exec_bind, hreply]
        cases ((exchange none url (HttpCall.plain "GET")).exec right).1 with
        | none => exact ⟨rfl, hafter⟩
        | some reply =>
            dsimp only
            split
            next => exact ih _ hafter
            next => exact ih _ hafter

theorem providerMetadata_congr (hnetwork : left.network = right.network) (url : String) :
    ((providerMetadata url).exec left).1 = ((providerMetadata url).exec right).1 ∧
      ((providerMetadata url).exec left).2.network =
        ((providerMetadata url).exec right).2.network := by
  have hsame := askProvider_congr
    (String.ofList (Text.dropTrailing (· = '/') url.toList)) ∅ providerKeys hnetwork
  unfold providerMetadata
  rw [exec_bind, exec_bind]
  generalize (askProvider _ ∅ providerKeys).exec left = first at hsame ⊢
  generalize (askProvider _ ∅ providerKeys).exec right = second at hsame ⊢
  obtain ⟨found, after⟩ := first
  obtain ⟨rfl, hafter⟩ := hsame
  cases second.1 with
  | none => exact ⟨rfl, hafter⟩
  | some metadata => exact ⟨rfl, hafter⟩

theorem readInstanceConfig_congr (hmachine : left.machine = right.machine)
    (hnetwork : left.network = right.network) (flavor : DataCenterFlavor) (scope : Scope) :
    ((readInstanceConfig flavor scope).exec left).1 =
      ((readInstanceConfig flavor scope).exec right).1 := by
  unfold readInstanceConfig
  rw [exec_bind, exec_bind, exec_get, exec_get]
  dsimp only
  rw [hmachine]
  cases InstanceConfig.ofScope right.machine scope with
  | error error => rfl
  | ok config =>
      cases flavor with
      | generic => rfl
      | cloud =>
          obtain ⟨hmetadata, -⟩ := providerMetadata_congr hnetwork
            (scope.text "amazon.metadataUrl" providerUrl)
          dsimp only
          rw [exec_bind, exec_bind, exec_pure, exec_pure, hmetadata]

end Action

end MemberDiscovery
