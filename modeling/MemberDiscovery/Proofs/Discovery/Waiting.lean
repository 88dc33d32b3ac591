import Mathlib.Algebra.Order.Ring.Nat
import MemberDiscovery.Proofs.Discovery.Filtering
import MemberDiscovery.Proofs.Discovery.Polling

/-! # How long a member waits

A member that has been started polls the registry until an answer settles the matter, however long
that takes (`Member.verify_polls`). Only so many lookups are made as `Deployment.patience` says,
which is no bound on the waiting: every lookup with the pause after it uses up something of what is
fixed in advance, or else nothing changes any more that answers depend on (`Deployment.Consumes`),
and then none is ever given that settles the matter.
-/

namespace MemberDiscovery

open MemberDiscovery.Action (Keeps SameButLogs Congruent)

/-! ## What answers depend on -/

namespace Slots

variable {α : Type}

/-- The sum of a number over all slots. -/
def total (slots : Slots α) (weight : α → Nat) : Nat :=
  (slots.toList.map weight).sum

theorem total_set (slots : Slots α) (weight : α → Nat) (number : Nat) (value : α) :
    (slots.set number value).total weight +
        (if number < slots.size then weight (slots.get number) else 0) =
      slots.total weight + if number < slots.size then weight value else 0 := by
  obtain ⟨size, get⟩ := slots
  simp only [total, toList, numbers, set, List.map_map, Function.comp_def]
  induction size with
  | zero => simp
  | succ size ih =>
      simp only [List.range_succ, List.map_append, List.sum_append, List.map_cons, List.map_nil,
        List.sum_cons, List.sum_nil]
      by_cases hlast : size = number
      · subst hlast
        simp at ih ⊢
        omega
      · by_cases hbefore : number < size
        · have hafter : number < size + 1 := by omega
          simp only [if_pos hbefore, if_pos hafter, if_neg hlast] at ih ⊢
          omega
        · have hafter : ¬ number < size + 1 := by omega
          simp only [if_neg hbefore, if_neg hafter, if_neg hlast] at ih ⊢
          omega

theorem total_set_lt {slots : Slots α} {weight : α → Nat} {number : Nat} {value : α}
    (hnumber : number < slots.size) (hless : weight value < weight (slots.get number)) :
    (slots.set number value).total weight < slots.total weight := by
  have htotal := slots.total_set weight number value
  rw [if_pos hnumber, if_pos hnumber] at htotal
  omega

theorem total_set_le (slots : Slots α) (weight : α → Nat) {number more : Nat} {value : α}
    (hmore : weight value ≤ weight (slots.get number) + more) :
    (slots.set number value).total weight ≤ slots.total weight + more := by
  have htotal := slots.total_set weight number value
  split at htotal <;> omega

end Slots

/-- How many answers are left in a script. -/
def Client.scriptLength : Client → Nat
  | .registry _ => 0
  | .scripted client => client.script.length

namespace Deployment

/-- How much is left of what is fixed in advance. -/
def reserve (deployment : Deployment) : Nat :=
  deployment.network.script.length + deployment.clients.total Client.scriptLength +
    deployment.registries.total (·.failures.length) +
      (deployment.interventions.map fun actions => actions.length + 1).sum

theorem patience_eq (deployment : Deployment) : deployment.patience = deployment.reserve + 1 := by
  have hfoldl : ∀ (numbers : List Nat) (start : Nat),
      numbers.foldl (· + ·) start = start + numbers.sum := by
    intro numbers
    induction numbers with
    | nil => simp
    | cons number rest ih => intro start; simp [ih, Nat.add_assoc]
  have hsum : deployment.patience = (deployment.clients.toList.map Client.scriptLength ++
      (deployment.registries.toList.map fun registry : Registry => registry.failures.length) ++
        deployment.interventions.map fun actions : List Intervention =>
          actions.length + 1).foldl (· + ·) deployment.network.script.length + 1 := rfl
  rw [hsum, hfoldl, List.sum_append, List.sum_append]
  simp only [reserve, Slots.total, Nat.add_assoc]

/-- Nothing differs that answers to lookups depend on. -/
structure Alike (left right : Deployment) : Prop where
  clients : left.clients = right.clients
  network : left.network = right.network
  interventions : left.interventions = right.interventions
  size : left.registries.size = right.registries.size
  applications : ∀ registry, (left.registries.get registry).applications =
    (right.registries.get registry).applications
  failures : ∀ registry, (left.registries.get registry).failures =
    (right.registries.get registry).failures

namespace Alike

variable {left middle right : Deployment}

theorem refl (deployment : Deployment) : Alike deployment deployment :=
  ⟨rfl, rfl, rfl, rfl, fun _ => rfl, fun _ => rfl⟩

theorem symm (halike : Alike left right) : Alike right left where
  clients := halike.clients.symm
  network := halike.network.symm
  interventions := halike.interventions.symm
  size := halike.size.symm
  applications registry := (halike.applications registry).symm
  failures registry := (halike.failures registry).symm

theorem trans (hfirst : Alike left middle) (hsecond : Alike middle right) : Alike left right where
  clients := hfirst.clients.trans hsecond.clients
  network := hfirst.network.trans hsecond.network
  interventions := hfirst.interventions.trans hsecond.interventions
  size := hfirst.size.trans hsecond.size
  applications registry := (hfirst.applications registry).trans (hsecond.applications registry)
  failures registry := (hfirst.failures registry).trans (hsecond.failures registry)

theorem reserve_eq (halike : Alike left right) : left.reserve = right.reserve := by
  simp only [reserve, Slots.total, Slots.toList, Slots.numbers, List.map_map, Function.comp_def,
    halike.clients, halike.network, halike.interventions, halike.size, halike.failures]

/-- A registry of each of two deployments may be replaced by registries that are alike. -/
theorem setRegistry (halike : Alike left right) (number : Nat) {first second : Registry}
    (happlications : first.applications = second.applications)
    (hfailures : first.failures = second.failures) :
    Alike (left.setRegistry number first) (right.setRegistry number second) where
  clients := halike.clients
  network := halike.network
  interventions := halike.interventions
  size := halike.size
  applications registry := by
    simp only [registries_setRegistry, Slots.get_set]
    split
    · exact happlications
    · exact halike.applications registry
  failures registry := by
    simp only [registries_setRegistry, Slots.get_set]
    split
    · exact hfailures
    · exact halike.failures registry

theorem of_setRegistry {number : Nat} {state : Registry}
    (happlications : (left.registries.get number).applications = state.applications)
    (hfailures : (left.registries.get number).failures = state.failures) :
    Alike left (left.setRegistry number state) := by
  simpa using (refl left).setRegistry number happlications hfailures

theorem submit_lookup (app : String) (server : Transport) :
    Congruent Alike (Action.submit (.lookup app) server) := by
  cases server with
  | memory registry url =>
      intro left right halike
      have happlications := halike.applications registry
      have hfailures := halike.failures registry
      cases hleft : (left.registries.get registry).failures with
      | nil =>
          have hright := hfailures.symm.trans hleft
          rw [Action.exec_submit_of_failures_eq_nil hleft,
            Action.exec_submit_of_failures_eq_nil hright]
          refine ⟨?_, halike.setRegistry registry happlications rfl⟩
          simp only [Registry.accept, Registry.perform, Registry.application?, happlications]
      | cons error rest =>
          have hright := hfailures.symm.trans hleft
          rw [Action.exec_submit_of_failures_eq_cons hleft,
            Action.exec_submit_of_failures_eq_cons hright]
          exact ⟨rfl, halike.setRegistry registry happlications rfl⟩
  | remote server =>
      refine .submitRemote (fun _ _ halike => halike.network) ?_ server _
      intro left right network call halike
      exact { halike with network := rfl }

theorem lookup (number : Nat) (app : String) : Congruent Alike (Action.lookup number app) := by
  refine .lookup (fun _ _ halike => by rw [halike.clients]) (submit_lookup app) ?_
  intro left right client halike
  refine { halike with clients := ?_ }
  simp only [clients_setClient]
  exact congrArg (·.set number client) halike.clients

/-- A sleep during which nobody else does anything. -/
theorem sleep {deployment : Deployment} (hquiet : deployment.interventions = [])
    (milliseconds : Nat) : Alike deployment (deployment.sleep milliseconds) := by
  rw [sleep_of_interventions_eq_nil hquiet]
  exact ⟨rfl, rfl, rfl, rfl, fun _ => rfl, fun _ => rfl⟩

end Alike

/-! ## What is used up -/

theorem size_registries_submit {α : Type} (request : Request α) (server : Transport)
    (deployment : Deployment) :
    ((Action.submit request server).exec deployment).2.registries.size =
      deployment.registries.size := by
  have hkeeps : Keeps (fun after => after.registries.size = deployment.registries.size)
      (Action.submit request server) := by
    cases server with
    | memory registry url => exact fun _ hsize => hsize
    | remote server => exact .submitRemote server request fun _ _ _ hsize => hsize
  exact hkeeps deployment rfl

theorem reserve_intervene (intervention : Intervention) (deployment : Deployment) :
    (deployment.intervene intervention).reserve ≤ deployment.reserve + 1 := by
  have hset : ∀ (number : Nat) (state : Registry),
      state.failures.length ≤ (deployment.registries.get number).failures.length + 1 →
        (deployment.setRegistry number state).reserve ≤ deployment.reserve + 1 := by
    intro number state hstate
    have htotal :=
      deployment.registries.total_set_le (fun registry => registry.failures.length) hstate
    simp only [reserve, setRegistry]
    omega
  cases intervention with
  | store number record => exact hset number _ (Nat.le_succ _)
  | evict number app id =>
      refine hset number _ ?_
      rw [Registry.evict_failures]
      exact Nat.le_succ _
  | scheduleFailure number error =>
      exact hset number _ (by simp [Registry.scheduleFailure])

theorem reserve_foldl_intervene (interventions : List Intervention) (deployment : Deployment) :
    (interventions.foldl intervene deployment).reserve ≤
      deployment.reserve + interventions.length := by
  induction interventions generalizing deployment with
  | nil => exact Nat.le_refl _
  | cons intervention rest ih =>
      calc (rest.foldl intervene (deployment.intervene intervention)).reserve
          ≤ (deployment.intervene intervention).reserve + rest.length := ih _
        _ ≤ deployment.reserve + 1 + rest.length :=
          Nat.add_le_add_right (reserve_intervene intervention deployment) _
        _ = deployment.reserve + (intervention :: rest).length := by rw [List.length_cons]; omega

/-- What others do during a sleep was reckoned with. -/
theorem reserve_sleep_lt {deployment : Deployment} {actions : List Intervention}
    {later : List (List Intervention)} (hsome : deployment.interventions = actions :: later)
    (milliseconds : Nat) : (deployment.sleep milliseconds).reserve < deployment.reserve := by
  rw [sleep_of_interventions_eq_cons hsome]
  have hleft := reserve_foldl_intervene actions
    { (deployment.advance milliseconds).note (.slept milliseconds) with interventions := later }
  have hreserve : deployment.reserve = actions.length + 1 +
      { (deployment.advance milliseconds).note (.slept milliseconds) with
        interventions := later }.reserve := by
    simp only [reserve, hsome, List.map_cons, List.sum_cons, note, advance]
    omega
  omega

/-- The client is one of those of the deployment, and so is every registry in memory that it
asks. -/
structure Provides (number : Nat) (deployment : Deployment) : Prop where
  client : number < deployment.clients.size
  registries : ∀ client, deployment.clients.get number = .registry client →
    ∀ registry url, .memory registry url ∈ client.transports → registry < deployment.registries.size

/-- Something of what is fixed in advance was used up, or answers depend on nothing that changed. -/
def Consumes (before after : Deployment) : Prop :=
  after.reserve < before.reserve ∨ Alike before after

namespace Consumes

variable {before middle after : Deployment}

theorem reserve_le (hconsumes : Consumes before after) : after.reserve ≤ before.reserve := by
  rcases hconsumes with hless | halike
  · exact Nat.le_of_lt hless
  · exact Nat.le_of_eq halike.reserve_eq.symm

theorem trans (hfirst : Consumes before middle) (hsecond : Consumes middle after) :
    Consumes before after := by
  rcases hfirst with hless | hfirst
  · exact .inl (Nat.lt_of_le_of_lt hsecond.reserve_le hless)
  · rcases hsecond with hless | hsecond
    · exact .inl (Nat.lt_of_lt_of_eq hless hfirst.reserve_eq.symm)
    · exact .inr (hfirst.trans hsecond)

theorem submitMemory {registry : Nat} {url : String}
    (hregistry : registry < before.registries.size) (app : String) :
    Consumes before ((Action.submit (.lookup app) (.memory registry url)).exec before).2 := by
  cases hfailures : (before.registries.get registry).failures with
  | nil =>
      rw [Action.exec_submit_of_failures_eq_nil hfailures]
      exact .inr (.of_setRegistry rfl hfailures)
  | cons error rest =>
      rw [Action.exec_submit_of_failures_eq_cons hfailures]
      have hless : (before.registries.set registry
          { before.registries.get registry with failures := rest }).total (·.failures.length) <
            before.registries.total (·.failures.length) :=
        Slots.total_set_lt hregistry (by simp [hfailures])
      exact .inl (Nat.add_lt_add_right (Nat.add_lt_add_left hless _) _)

theorem exchange (proxy : Option HttpProxy) (url : Url) (call : HttpCall) :
    Consumes before ((Action.exchange proxy url call).exec before).2 := by
  unfold Action.exchange
  rw [Action.exec_bind, Action.exec_get]
  dsimp only
  rw [Action.exec_ite]
  split
  next =>
    rw [Action.exec_bind, Action.exec_set, Action.exec_pure]
    cases hscript : before.network.script with
    | nil =>
        have hreply : before.network.reply.2 = before.network := by
          simp only [Network.reply, hscript]
        exact .inr ⟨rfl, hreply.symm, rfl, rfl, fun _ => rfl, fun _ => rfl⟩
    | cons answer rest =>
        have hless : before.network.reply.2.script.length < before.network.script.length := by
          simp [Network.reply, hscript]
        refine .inl (Nat.add_lt_add_right (Nat.add_lt_add_right (Nat.add_lt_add_right hless _) _) _)
  next => exact .inr (.refl before)

theorem submit {server : Transport}
    (hregistry : ∀ registry url, server = .memory registry url → registry < before.registries.size)
    (app : String) : Consumes before ((Action.submit (.lookup app) server).exec before).2 := by
  cases server with
  | memory registry url => exact submitMemory (hregistry registry url rfl) app
  | remote server =>
      change Consumes before ((Action.submitRemote server (.lookup app)).exec before).2
      unfold Action.submitRemote
      split
      next => exact .inr (.refl before)
      next url _ =>
        have hexchange := @exchange before server.proxy url (RemoteRegistry.call (.lookup app))
        rw [Action.exec_bind]
        generalize (Action.exchange server.proxy url
          (RemoteRegistry.call (.lookup app))).exec before = exchanged at hexchange ⊢
        obtain ⟨reply, after⟩ := exchanged
        cases reply <;> exact hexchange

/-- A round of requests uses something up, or it leaves everything alike. -/
theorem failover {servers : List Transport}
    (hregistries : ∀ registry url, .memory registry url ∈ servers →
      registry < before.registries.size) (app : String) :
    Consumes before ((failover (Action.submit (.lookup app)) servers).exec before).2 := by
  have hkeeps : Keeps (fun after => Consumes before after ∧
      after.registries.size = before.registries.size)
        (MemberDiscovery.failover (Action.submit (.lookup app)) servers) := by
    refine .failover ?_
    intro server hserver middle ⟨hmiddle, hsize⟩
    refine ⟨hmiddle.trans (submit ?_ app), (size_registries_submit _ server middle).trans hsize⟩
    rintro registry url rfl
    rw [hsize]
    exact hregistries registry url hserver
  exact (hkeeps before ⟨.inr (.refl before), rfl⟩).1

theorem lookup {number : Nat} (hprovides : before.Provides number) (app : String) :
    Consumes before ((Action.lookup number app).exec before).2 := by
  cases hclient : before.clients.get number with
  | registry client =>
      cases hshutDown : client.isShutDown with
      | true =>
          rw [Action.exec_lookup_of_isShutDown hclient hshutDown]
          exact .inr (.refl before)
      | false =>
          rw [Action.exec_lookup_of_live hclient hshutDown]
          split
          next => exact failover (hprovides.registries client hclient) app
          next => exact .inr (.refl before)
  | scripted client =>
      rw [Action.exec_lookup_of_scripted hclient]
      cases hscript : client.script with
      | nil =>
          have hsame : (Action.nextAnswer client).2 = client := by
            simp only [Action.nextAnswer, hscript]
          refine .inr ⟨?_, rfl, rfl, rfl, fun _ => rfl, fun _ => rfl⟩
          rw [clients_setClient, hsame, ← hclient]
          exact (Slots.set_get before.clients number).symm
      | cons answer rest =>
          have hless : (before.clients.set number (.scripted (Action.nextAnswer client).2)).total
              Client.scriptLength < before.clients.total Client.scriptLength := by
            refine Slots.total_set_lt hprovides.client ?_
            simp [hclient, Client.scriptLength, Action.nextAnswer, hscript]
          exact .inl (Nat.add_lt_add_right (Nat.add_lt_add_right (Nat.add_lt_add_left hless _) _) _)

end Consumes

namespace Provides

variable {number : Nat} {deployment : Deployment}

theorem lookup (hprovides : deployment.Provides number) (app : String) :
    ((Action.lookup number app).exec deployment).2.Provides number := by
  cases hclient : deployment.clients.get number with
  | registry client =>
      have hclients := Action.clients_lookup hclient app
      have hsize : ((Action.lookup number app).exec deployment).2.registries.size =
          deployment.registries.size := by
        cases hshutDown : client.isShutDown with
        | true => rw [Action.exec_lookup_of_isShutDown hclient hshutDown]
        | false =>
            rw [Action.exec_lookup_of_live hclient hshutDown]
            split
            next =>
              have hkeeps : Keeps (fun after => after.registries.size = deployment.registries.size)
                  (failover (Action.submit (.lookup app)) client.transports) :=
                .failover fun server _ before hsize =>
                  (size_registries_submit _ server before).trans hsize
              exact hkeeps deployment rfl
            next => rfl
      exact ⟨by rw [hclients]; exact hprovides.client, by
        rw [hclients, hsize]
        exact hprovides.registries⟩
  | scripted client =>
      rw [Action.exec_lookup_of_scripted hclient]
      refine ⟨hprovides.client, ?_⟩
      intro other hother
      simp at hother

theorem sleep (hprovides : deployment.Provides number) (milliseconds : Nat) :
    (deployment.sleep milliseconds).Provides number := by
  refine sleep_keeps (P := fun after => after.Provides number) ?_ ?_ hprovides milliseconds
  · exact fun _ _ _ _ hbefore => ⟨hbefore.client, hbefore.registries⟩
  · intro before intervention hbefore
    cases intervention <;> exact ⟨hbefore.client, hbefore.registries⟩

end Provides

/-- Where a lookup leaves everything alike and nobody does anything meanwhile, its answer is given
again and again. -/
theorem Alike.poll_eq {number : Nat} {app : String} (pause : Nat) {before after : Deployment}
    {answer : LookupAnswer} (hlookup : (Action.lookup number app).exec before = (answer, after))
    (halike : Alike before after) (hquiet : after.interventions = []) (rounds : Nat) :
    ∀ given ∈ ((Action.poll number app pause rounds).exec before).1, given = answer := by
  induction rounds generalizing before after with
  | zero => simp [Action.poll]
  | succ rounds ih =>
      cases rounds with
      | zero =>
          rw [Action.exec_poll_one _ _ _ _ hlookup]
          simp
      | succ rounds =>
          rw [Action.exec_poll_succ _ _ _ _ hlookup]
          have hslept : Alike after (after.sleep pause) := .sleep hquiet pause
          obtain ⟨hanswer, hafter⟩ := Alike.lookup number app _ _ (halike.trans hslept)
          obtain ⟨⟨again, later⟩, hagain⟩ :
            ∃ looked, (Action.lookup number app).exec (after.sleep pause) = looked := ⟨_, rfl⟩
          rw [hlookup, hagain] at hanswer hafter
          dsimp only at hanswer hafter
          subst hanswer
          simpa using ih hagain (hslept.symm.trans hafter) (hafter.interventions.symm.trans hquiet)

/-- A lookup with the pause after it uses something up, or nothing happens any more. -/
theorem Provides.consumes {number : Nat} {before : Deployment} (hprovides : before.Provides number)
    (app : String) (pause : Nat) :
    let after := ((Action.lookup number app).exec before).2
    (after.sleep pause).reserve < before.reserve ∨
      Alike before after ∧ after.interventions = [] := by
  intro after
  have hlookup : Consumes before after := .lookup hprovides app
  cases hinterventions : after.interventions with
  | cons actions later =>
      exact .inl (Nat.lt_of_lt_of_le (reserve_sleep_lt hinterventions pause) hlookup.reserve_le)
  | nil =>
      have hslept : Alike after (after.sleep pause) := .sleep hinterventions pause
      rw [← hslept.reserve_eq]
      exact hlookup.imp_right fun halike => ⟨halike, rfl⟩

/-- An answer that settles a search is given while there is something left to be used up. -/
theorem Provides.length_le_reserve {number : Nat} {app : String} {pause : Nat}
    {answers : List LookupAnswer} {last : LookupAnswer} {deployment : Deployment}
    (hprovides : deployment.Provides number)
    (hpoll : ((Action.poll number app pause (answers.length + 1)).exec deployment).1 =
      answers ++ [last])
    (hopen : ∀ answer ∈ answers, answer.settles = false) (hsettles : last.settles = true) :
    answers.length ≤ deployment.reserve := by
  induction answers generalizing deployment with
  | nil => exact Nat.zero_le _
  | cons first rest ih =>
      obtain ⟨⟨answer, after⟩, hlookup⟩ :
        ∃ looked, (Action.lookup number app).exec deployment = looked := ⟨_, rfl⟩
      have hconsumes := hprovides.consumes app pause
      have hstill := (hprovides.lookup app).sleep pause
      rw [hlookup] at hconsumes hstill
      rcases hconsumes with hless | ⟨halike, hquiet⟩
      · rw [List.length_cons, Action.exec_poll_succ _ _ _ _ hlookup, List.cons_append,
          List.cons.injEq] at hpoll
        have hrest := ih hstill hpoll.2 fun given hmem => hopen given (List.mem_cons_of_mem _ hmem)
        exact Nat.lt_of_le_of_lt hrest hless
      · -- Nothing happens any more, so the last answer is the first one.
        have hsame := halike.poll_eq pause hlookup hquiet ((first :: rest).length + 1)
        rw [hpoll] at hsame
        have hfirst := hopen first List.mem_cons_self
        rw [hsame first (by simp), ← hsame last (by simp), hsettles] at hfirst
        cases hfirst

end Deployment

/-! ## Waiting -/

namespace Member

/-- What is given for the answer that ends the waiting. -/
def verdict : LookupAnswer → Except DiscoveryError Unit
  | .ok _ => .ok ()
  | .error error => .error (.client error)

section Rounds

variable {number : Nat} {app : String} {before other : Deployment}

/-- A round of waiting ends with an answer that settles the matter. -/
theorem exec_awaitApplication_of_settles (hsame : SameButLogs before other)
    (hsettles : ((Action.lookup number app).exec other).1.settles = true) (rounds : Nat) :
    ∃ after, SameButLogs after ((Action.lookup number app).exec other).2 ∧
      (awaitApplication number app (rounds + 1)).exec before =
        (some (verdict ((Action.lookup number app).exec other).1), after) := by
  have hnoted := (Deployment.withoutLogs_note_logged .info
    "Waiting for registration with Eureka..." [] before).trans hsame
  obtain ⟨answer, after, looked, hlookup, hother, hlooked⟩ :=
    Action.exists_lookup_of_sameButLogs hnoted number app
  rw [hother] at hsettles ⊢
  rw [awaitApplication, Action.exec_bind, Action.exec_inform, Action.exec_bind, hlookup]
  match answer, hsettles with
  | .ok (some found), _ =>
      exact ⟨_, (Deployment.withoutLogs_note_logged _ _ _ _).trans hlooked, rfl⟩
  | .error error, hfatal =>
      have hfatal : error.isFatal = true := hfatal
      dsimp only
      rw [if_pos hfatal]
      exact ⟨after, hlooked, rfl⟩

/-- After any other answer the waiting goes on. -/
theorem exec_awaitApplication_of_not_settles (hsame : SameButLogs before other)
    (hopen : ((Action.lookup number app).exec other).1.settles = false) (rounds : Nat) :
    ∃ after,
      SameButLogs after (((Action.lookup number app).exec other).2.sleep verificationPause) ∧
        (awaitApplication number app (rounds + 1)).exec before =
          (awaitApplication number app rounds).exec after := by
  have hnoted := (Deployment.withoutLogs_note_logged .info
    "Waiting for registration with Eureka..." [] before).trans hsame
  obtain ⟨answer, after, looked, hlookup, hother, hlooked⟩ :=
    Action.exists_lookup_of_sameButLogs hnoted number app
  have hslept := (Congruent.sleep_logs verificationPause after looked hlooked).2
  rw [hother] at hopen ⊢
  refine ⟨after.sleep verificationPause, hslept, ?_⟩
  rw [awaitApplication, Action.exec_bind, Action.exec_inform, Action.exec_bind, hlookup]
  match answer, hopen with
  | .ok none, _ => rfl
  | .error error, htransient =>
      dsimp only
      rw [if_neg (by simpa [LookupAnswer.settles] using htransient)]
      rfl

/-- Waiting is polling up to the first answer that settles the matter. -/
theorem awaitApplication_polls (hsame : SameButLogs before other)
    {answers : List LookupAnswer} {last : LookupAnswer}
    (hpoll : ((Action.poll number app verificationPause (answers.length + 1)).exec other).1 =
      answers ++ [last])
    (hopen : ∀ answer ∈ answers, answer.settles = false) (hsettles : last.settles = true)
    {rounds : Nat} (hrounds : answers.length < rounds) :
    ((awaitApplication number app rounds).exec before).1 = some (verdict last) ∧
      SameButLogs ((awaitApplication number app rounds).exec before).2
        ((Action.poll number app verificationPause (answers.length + 1)).exec other).2 := by
  obtain ⟨left, rfl⟩ := Nat.exists_eq_add_one.mpr (Nat.zero_lt_of_lt hrounds)
  obtain ⟨⟨answer, looked⟩, hlookup⟩ :
    ∃ looked, (Action.lookup number app).exec other = looked := ⟨_, rfl⟩
  induction answers generalizing before other answer looked left with
  | nil =>
      rw [List.length_nil, Action.exec_poll_one _ _ _ _ hlookup] at hpoll ⊢
      obtain rfl : answer = last := by simpa using hpoll
      have hanswer : ((Action.lookup number app).exec other).1.settles = true := by
        rw [hlookup]
        exact hsettles
      obtain ⟨after, hafter, hexec⟩ := exec_awaitApplication_of_settles hsame hanswer left
      rw [hlookup] at hafter hexec
      rw [hexec]
      exact ⟨rfl, hafter⟩
  | cons first rest ih =>
      rw [List.length_cons, Action.exec_poll_succ _ _ _ _ hlookup] at hpoll ⊢
      rw [List.cons_append, List.cons.injEq] at hpoll
      have hanswer : ((Action.lookup number app).exec other).1.settles = false := by
        rw [hlookup, hpoll.1]
        exact hopen first List.mem_cons_self
      obtain ⟨after, hafter, hexec⟩ := exec_awaitApplication_of_not_settles hsame hanswer left
      rw [hlookup] at hafter
      obtain ⟨fewer, rfl⟩ : ∃ fewer, left = fewer + 1 :=
        Nat.exists_eq_add_one.mpr (by rw [List.length_cons] at hrounds; omega)
      rw [hexec]
      exact ih hafter hpoll.2 (fun given hmem => hopen given (List.mem_cons_of_mem _ hmem)) fewer
        (by rw [List.length_cons] at hrounds; omega) _ _ rfl

/-- As long as no answer settles the matter the waiting goes on. -/
theorem awaitApplication_goes_on (hsame : SameButLogs before other) {rounds : Nat}
    (hopen : ∀ answer ∈ ((Action.poll number app verificationPause (rounds + 1)).exec other).1,
      answer.settles = false) :
    ((awaitApplication number app (rounds + 1)).exec before).1 = none ∧
      SameButLogs ((awaitApplication number app (rounds + 1)).exec before).2
        (((Action.poll number app verificationPause (rounds + 1)).exec other).2.sleep
          verificationPause) := by
  obtain ⟨⟨answer, looked⟩, hlookup⟩ :
    ∃ looked, (Action.lookup number app).exec other = looked := ⟨_, rfl⟩
  induction rounds generalizing before other answer looked with
  | zero =>
      rw [Action.exec_poll_one _ _ _ _ hlookup] at hopen ⊢
      have hanswer : ((Action.lookup number app).exec other).1.settles = false := by
        rw [hlookup]
        exact hopen answer List.mem_cons_self
      obtain ⟨after, hafter, hexec⟩ := exec_awaitApplication_of_not_settles hsame hanswer 0
      rw [hlookup] at hafter
      rw [hexec]
      exact ⟨rfl, hafter⟩
  | succ rounds ih =>
      rw [Action.exec_poll_succ _ _ _ _ hlookup] at hopen ⊢
      have hanswer : ((Action.lookup number app).exec other).1.settles = false := by
        rw [hlookup]
        exact hopen answer List.mem_cons_self
      obtain ⟨after, hafter, hexec⟩ :=
        exec_awaitApplication_of_not_settles hsame hanswer (rounds + 1)
      rw [hlookup] at hafter
      rw [hexec]
      exact ih hafter (fun given hmem => hopen given (List.mem_cons_of_mem _ hmem)) _ _ rfl

end Rounds

/-- A member waits by polling with pauses of five seconds, up to the first answer that settles the
matter, and gives what that answer says. Until such an answer is given the waiting goes on, and
without one it never ends. -/
theorem verify_polls {member : Member} {before : Deployment}
    (hprovides : before.Provides member.client) :
    let app := (before.managers.get member.manager).config.appName
    let polled (rounds : Nat) := (Action.poll member.client app 5000 rounds).exec before
    let waited (rounds : Nat) := (awaitApplication member.client app rounds).exec before
    let result := member.verify.exec before
    (∀ answers last, (∀ answer ∈ answers, answer.settles = false) → last.settles = true →
      (polled (answers.length + 1)).1 = answers ++ [last] →
        result.1 = some (verdict last) ∧
          result.2.withoutLogs = (polled (answers.length + 1)).2.withoutLogs) ∧
      (∀ rounds, (∀ answer ∈ (polled (rounds + 1)).1, answer.settles = false) →
        (waited (rounds + 1)).1 = none ∧ (waited (rounds + 1)).2.withoutLogs =
          ((polled (rounds + 1)).2.sleep 5000).withoutLogs) ∧
      ((∀ rounds, ∀ answer ∈ (polled rounds).1, answer.settles = false) → result.1 = none) := by
  intro app polled waited result
  have hresult : result = waited (before.reserve + 1) := by
    rw [← Deployment.patience_eq]
    exact exec_verify member before
  refine ⟨?_, ?_, ?_⟩
  · intro answers last hopen hsettles hpolled
    have henough : answers.length < before.reserve + 1 :=
      Nat.lt_succ_of_le (hprovides.length_le_reserve hpolled hopen hsettles)
    rw [hresult]
    exact awaitApplication_polls (.refl before.withoutLogs) hpolled hopen hsettles henough
  · intro rounds hopen
    exact awaitApplication_goes_on (.refl before.withoutLogs) hopen
  · intro hopen
    rw [hresult]
    exact (awaitApplication_goes_on (.refl before.withoutLogs) (hopen _)).1

/-- A process with a client that is answered twice before the application shows. -/
def samplePatience : Deployment :=
  ((MemberPlan.sampleStart.addManager default).2.addClient (.scripted ⟨0,
    [.ok none, .error (.allServersFailed 2 (.allServersFailed 1 .noAnswer)),
      .ok (some ⟨"APP", []⟩)], .ok none⟩)).2

theorem verify_polls_of_samplePatience :
    samplePatience.Provides sampleSeeker.client ∧
      (sampleSeeker.verify.exec samplePatience).1 = some (.ok ()) ∧
        (sampleSeeker.verify.exec samplePatience).2.withoutLogs =
          ((Action.poll 0 (samplePatience.managers.get 0).config.appName 5000 3).exec
            samplePatience).2.withoutLogs := by
  have hprovides : samplePatience.Provides sampleSeeker.client :=
    ⟨by decide, fun _ hclient => by cases hclient⟩
  exact ⟨hprovides, (verify_polls hprovides).1
    [.ok none, .error (.allServersFailed 2 (.allServersFailed 1 .noAnswer))]
    (.ok (some ⟨"APP", []⟩)) (by decide) rfl rfl⟩

end Member

end MemberDiscovery
