import AgentGraph.Proofs.Always
import AgentGraph.Proofs.Units

/-! What the processes of runnables are made of.

Everything that a runnable does to a context it does in a few ways: it records who is at work, writes
under its own key, hands directives on and takes them back, and merges branches that began on the
context as it was. So what is to be known of the contexts of a run is said once, as a relation that
all of these respect.

* `Frame`: a relation between contexts that everything respects which a runnable does.
* `Process.Serves`: a process asks only what units of a runnable ask, forks only as its parallels
  fork, and stays within such a relation.
* `Runnable.serves`: an invocation of a runnable does so.
* `Process.Serves.always`: so the relation holds between the start of a run and its end.
* `Runnable.live`: every runnable can always be brought to its end. -/
namespace AgentGraph
set_option autoImplicit false

variable {μ : Type} {may : Replies μ}

/-! ## What contexts go through -/

/-- The context on which a runnable acts: its invocation is recorded. -/
def Context.entered (c : Context) (r : Runnable μ) : Context :=
  c.withScope (c.scope.record r.id r.name)

/-- The context on which every branch of a parallel begins. -/
def Context.handed (c : Context) : Context := c.fork.withDirective c.directive

/-- Everything that goes on within the runnable respects the relation. -/
structure Frame (r : Runnable μ) (R : Context → Context → Prop) : Prop where
  refl : ∀ c, R c c
  trans : ∀ {c c' c''}, R c c' → R c' c'' → R c c''
  directive : ∀ c directive, R c (c.withDirective directive)
  record : ∀ s : Runnable μ, s.Within r → ∀ c, R c (c.entered s)
  /-- A unit writes under its own key, on what has become of the context that it acts on. -/
  write : ∀ (s : Runnable μ) (key : String), s.Within r → s.key? = some key →
    ∀ c c' value, R (c.entered s) c' → R c (c'.write key value)
  merge : ∀ c c' branch, R c c' → R c.handed branch → R c (c'.withScope (c'.scope.merge branch.scope))

namespace Frame

variable {r : Runnable μ} {R : Context → Context → Prop}

theorem trivial (r : Runnable μ) : Frame r fun _ _ => True where
  refl _ := True.intro
  trans _ _ := True.intro
  directive _ _ := True.intro
  record _ _ _ := True.intro
  write _ _ _ _ _ _ _ _ := True.intro
  merge _ _ _ _ _ := True.intro

theorem within (h : Frame r R) {s : Runnable μ} (hs : s.Within r) : Frame s R where
  refl := h.refl
  trans := h.trans
  directive := h.directive
  record t ht := h.record t (ht.trans hs)
  write t key ht := h.write t key (ht.trans hs)
  merge := h.merge

/-- What comes of the context that a unit acts on comes of the one that it was invoked on. -/
theorem enter (h : Frame r R) {s : Runnable μ} (hs : s.Within r) (c c' : Context)
    (hc : R (c.entered s) c') : R c c' :=
  h.trans (h.record s hs c) hc

theorem merge_all (h : Frame r R) {c : Context} {ends : List Outcome}
    (hends : ∀ o ∈ ends, R c.handed o.context) {c' : Context} (hc : R c c') :
    R c (c'.withScope ((ends.map fun o => o.context.scope).foldl Scope.merge c'.scope)) := by
  induction ends generalizing c' with
  | nil => exact hc
  | cons o rest ih =>
    have hmerged : R c (c'.withScope (c'.scope.merge o.context.scope)) :=
      h.merge c c' o.context hc (hends o List.mem_cons_self)
    exact ih (fun x hx => hends x (List.mem_cons_of_mem _ hx)) hmerged

theorem gather (h : Frame r R) {c : Context} {ends : List Outcome}
    (hends : ∀ o ∈ ends, R c.handed o.context) (key : Option String) :
    R c (gather key (c.withDirective none) ends).context := by
  unfold AgentGraph.gather
  split
  · exact h.directive c none
  · exact h.merge_all hends (h.directive c none)

end Frame

/-! ## What a process may do -/

open Supervisor in
/-- What the runnable itself may ask its model while it acts on the context. -/
def Runnable.Requests : Runnable μ → Context → μ → Request → Prop
  | .agent _ _ a, c, model, request => model = a.model ∧ request = a.request c
  | .supervisor _ _ s subs, c, model, request => model = s.model ∧
      ((∃ delegations, request = planningRequest (subs.map executable) (task c) delegations) ∨
        ∃ first second, request = comparison (task c) first second)
  | _, _, _, _ => False

/-- The process asks what units within the runnable ask, and forks as its parallels fork. All
contexts that it works on are as `Q` says, if those that its branches come to are related by `R` to
those on which they begin. -/
inductive Process.Serves (r : Runnable μ) (R : Context → Context → Prop) (Q : Context → Prop) :
    Process μ → Prop
  | done {o : Outcome} (h : Q o.context) : Serves r R Q (.done o)
  | report {e : Event} {next : Process μ} (h : Serves r R Q next) : Serves r R Q (.report e next)
  | write {c : Context} {key : String} {value : Value} {next : Context → Process μ} (hc : Q c)
      (h : Serves r R Q (next (c.write key value))) : Serves r R Q (.write c key value next)
  | ask {s : Runnable μ} {c : Context} {model : μ} {request : Request}
      {next : Except Failure String → Process μ} (hs : s.Within r) (hc : Q c)
      (hrequest : s.Requests c model request) (h : ∀ reply, Serves r R Q (next reply)) :
    Serves r R Q (.ask model request next)
  | fork {id name : String} {units : List (Runnable μ)} {pool : Nat} {key : Option String}
      {c : Context} {next : List Outcome → Process μ}
      (hs : (Runnable.parallel id name units pool key).Within r) (hc : Q c)
      (h : ∀ outcomes : List Outcome, (∀ o ∈ outcomes, R c.handed o.context) →
        Serves r R Q (next outcomes)) :
    Serves r R Q (.fork (Executable.permits pool)
      (units.map fun u => u.executable.invoke c.handed) next)

/-- Invoked on a context, the executable leaves one that is related to it. -/
def Executable.Serves (r : Runnable μ) (R : Context → Context → Prop) (x : Executable μ) : Prop :=
  ∀ c, (x.invoke c).Serves r R (R c)

section Rules
variable {r : Runnable μ} {R : Context → Context → Prop} {I Q : Context → Prop} {c : Context}

namespace Process

variable {p : Process μ}

theorem Serves.imp (h : p.Serves r R I) (hIQ : ∀ c, I c → Q c) : p.Serves r R Q := by
  induction h with
  | done h => exact .done (hIQ _ h)
  | report _ ih => exact .report ih
  | write hc _ ih => exact .write (hIQ _ hc) ih
  | ask hs hc hrequest _ ih => exact .ask hs (hIQ _ hc) hrequest ih
  | fork hs hc _ ih => exact .fork hs (hIQ _ hc) ih

theorem Serves.andThen (h : p.Serves r R I) (hIQ : ∀ c, I c → Q c) {k : Outcome → Process μ}
    (hk : ∀ o, I o.context → (k o).Serves r R Q) : (p.andThen k).Serves r R Q := by
  induction h with
  | done h => exact hk _ h
  | report _ ih => exact .report ih
  | write hc _ ih => exact .write (hIQ _ hc) ih
  | ask hs hc hrequest _ ih => exact .ask hs (hIQ _ hc) hrequest ih
  | fork hs hc _ ih => exact .fork hs (hIQ _ hc) ih

theorem Serves.onSuccess (h : p.Serves r R I) (hIQ : ∀ c, I c → Q c)
    {k : Value → Context → Process μ} (hk : ∀ v c, I c → (k v c).Serves r R Q) :
    (p.onSuccess k).Serves r R Q := by
  refine h.andThen hIQ fun o ho => ?_
  split
  · exact hk _ _ ho
  · exact .done (hIQ _ ho)

theorem serves_consult {s : Runnable μ} {start : Context} {model : μ} {request : Request}
    (hs : s.Within r) (hstart : Q start) (hrequest : s.Requests start model request) (hc : Q c)
    {k : String → Process μ} (hk : ∀ reply, (k reply).Serves r R Q) :
    (consult model request c k).Serves r R Q := by
  refine .ask hs hstart hrequest fun reply => ?_
  cases reply with
  | ok reply => exact hk reply
  | error e => exact .done hc

end Process

namespace Executable

/-- Between invocations a context stays as `I` says, and then it is as `Q` says. -/
theorem Serves.invoke {x : Executable μ} (h : x.Serves r R) (hI : ∀ c c', I c → R c c' → I c')
    (hc : I c) : (x.invoke c).Serves r R I :=
  (h c).imp fun c' => hI c c' hc

theorem serves_publish {key : String} (hc : Q c) (hwrite : ∀ value, Q (c.write key value)) :
    (publish key c : Process μ).Serves r R Q :=
  .write hc (.done (hwrite _))

theorem serves_inOrder (hI : ∀ c c', I c → R c c' → I c') (hIQ : ∀ c, I c → Q c)
    {k : Context → Process μ} (hk : ∀ c, I c → (k c).Serves r R Q) {xs : List (Executable μ)}
    (h : ∀ x ∈ xs, x.Serves r R) (hc : I c) : (inOrder k xs c).Serves r R Q := by
  induction xs generalizing c with
  | nil => exact hk c hc
  | cons x rest ih =>
    have hx : (x.invoke c).Serves r R I := (h x List.mem_cons_self).invoke hI hc
    have hrest : ∀ y ∈ rest, y.Serves r R := fun y hy => h y (List.mem_cons_of_mem _ hy)
    exact hx.onSuccess hIQ fun _ _ => ih hrest

theorem serves_publishDirect {key : Option String} {v : Value} (hc : Q c)
    (hwrite : ∀ k, key = some k → ∀ value, Q (c.write k value)) :
    (publishDirect key v c : Process μ).Serves r R Q := by
  unfold publishDirect
  split
  · exact .done hc
  · next k =>
    split
    · exact .write hc (.done (hwrite k rfl v))
    · exact .done hc

theorem serves_choose (hI : ∀ c c', I c → R c c' → I c') (hIQ : ∀ c, I c → Q c) {id : String}
    {key : Option String} {routes : List (Condition × Executable μ)}
    (h : ∀ route ∈ routes, route.2.Serves r R) (hc : I c)
    (hwrite : ∀ k, key = some k → ∀ c value, I c → Q (c.write k value)) :
    (choose id routes key c).Serves r R Q := by
  unfold choose
  split
  · exact .done (hIQ c hc)
  · next condition target hfound =>
    have htarget : (target.invoke c).Serves r R I :=
      Serves.invoke (h _ (List.mem_of_find?_eq_some hfound)) hI hc
    exact .report (htarget.onSuccess hIQ fun _ c hc =>
      serves_publishDirect (hIQ c hc) fun k hk value => hwrite k hk c value hc)

theorem serves_spread {id name : String} {units : List (Runnable μ)} {pool : Nat}
    {key : Option String} (hs : (Runnable.parallel id name units pool key).Within r) (hc : Q c)
    (hgather : ∀ ends : List Outcome, (∀ o ∈ ends, R c.handed o.context) →
      Q (gather key (c.withDirective none) ends).context) :
    (spread (units.map Runnable.executable) pool key c).Serves r R Q := by
  rw [spread, List.map_map]
  refine .fork hs hc fun ends hends => .done ?_
  rw [join_eq_gather]
  exact hgather ends hends

end Executable

namespace Supervisor

open Executable

variable {id name : String} {s : Setup μ} {subs : List (Runnable μ)} {start : Context}

theorem serves_respond {response : Option String} (hc : Q c)
    (hwrite : ∀ value, Q (c.write s.outputKey value)) : (respond s c response).Serves r R Q := by
  cases response with
  | none => exact .done hc
  | some text => exact .write hc (.done (hwrite _))

theorem serves_conclude (hs : (Runnable.supervisor id name s subs).Within r) (hstart : Q start)
    {last summary : Option String} (hc : Q c) (hwrite : ∀ value, Q (c.write s.outputKey value)) :
    (conclude s (task start) last summary c).Serves r R Q := by
  unfold conclude
  split
  · exact serves_respond hc hwrite
  · exact serves_respond hc hwrite
  · next first second _ =>
    have hrequest : (Runnable.supervisor id name s subs).Requests start s.model
        (comparison (task start) first second) := ⟨rfl, .inr ⟨_, _, rfl⟩⟩
    exact Process.serves_consult hs hstart hrequest hc fun _ => serves_respond hc hwrite
  · exact serves_respond hc hwrite

theorem serves_warnAtLimit {left : Nat} {p : Process μ} (h : p.Serves r R Q) :
    (warnAtLimit id left p).Serves r R Q := by
  unfold warnAtLimit
  split
  · exact .report h
  · exact h

theorem serves_delegate {sub : Executable μ} {request : String} (h : sub.Serves r R)
    (hI : ∀ c c', I c → R c c' → I c') (hIQ : ∀ c, I c → Q c)
    (hdirective : ∀ c directive, R c (c.withDirective directive)) (hc : I c)
    {k : String → Context → Process μ} (hk : ∀ answer c, I c → (k answer c).Serves r R Q) :
    (delegate id sub request c k).Serves r R Q := by
  have hstart : I (c.withDirective (some request)) := hI _ _ hc (hdirective _ _)
  refine .report ((Serves.invoke h hI hstart).andThen hIQ fun o ho => ?_)
  have hback : I (o.context.withDirective none) := hI _ _ ho (hdirective _ _)
  dsimp only
  split
  · exact hk _ _ hback
  · exact .done (hIQ _ hback)

theorem serves_deliberate (hs : (Runnable.supervisor id name s subs).Within r) (hstart : Q start)
    (h : ∀ x ∈ subs.map Runnable.executable, x.Serves r R) (hI : ∀ c c', I c → R c c' → I c')
    (hIQ : ∀ c, I c → Q c) (hdirective : ∀ c directive, R c (c.withDirective directive))
    (hwrite : ∀ c value, I c → Q (c.write s.outputKey value)) {left : Nat}
    {delegations : List Delegation} (hc : I c) :
    (deliberate id s (subs.map Runnable.executable) (task start) left delegations c).Serves r R
      Q := by
  induction left generalizing delegations c with
  | zero => exact serves_conclude hs hstart (hIQ c hc) fun value => hwrite c value hc
  | succ left ih =>
    have hrequest : (Runnable.supervisor id name s subs).Requests start s.model
        (planningRequest (subs.map Runnable.executable) (task start) delegations) :=
      ⟨rfl, .inl ⟨_, rfl⟩⟩
    refine Process.serves_consult hs hstart hrequest (hIQ c hc) fun reply => ?_
    split
    · exact .done (hIQ c hc)
    · exact serves_conclude hs hstart (hIQ c hc) fun value => hwrite c value hc
    · split
      · exact .done (hIQ c hc)
      · next sub hfound =>
        exact serves_delegate (h sub (find?_mem hfound)) hI hIQ hdirective hc fun _ _ ho =>
          serves_warnAtLimit (ih ho)

end Supervisor

end Rules

/-! ## Runnables -/

namespace Runnable

variable {whole : Runnable μ} {R : Context → Context → Prop}

/-- An invocation first records itself; what it does then it does to that context. -/
theorem serves_of_act {r : Runnable μ} (hact : ∀ c, (r.executable.act (c.entered r)).Serves whole R
    (R c)) : r.executable.Serves whole R :=
  fun c => .report ((hact c).andThen (fun _ hc => hc) fun _ ho => .report (.done ho))

theorem serves_executables {rs : List (Runnable μ)}
    (h : ∀ r ∈ rs, r.executable.Serves whole R) : ∀ x ∈ rs.map executable, x.Serves whole R := by
  intro x hx
  obtain ⟨r, hr, rfl⟩ := List.mem_map.mp hx
  exact h r hr

/-- Wherever a runnable stands, it serves the whole. Until it writes, it keeps to what is related to
the context that it acts on; after that only to what is related to the one it was invoked on. -/
theorem serves_within (h : Frame whole R) {r : Runnable μ} (hr : r.Within whole) :
    r.executable.Serves whole R := by
  have hI : ∀ start c c', R start c → R c c' → R start c' := fun _ _ _ => h.trans
  induction r with
  | agent id name a =>
    refine serves_of_act fun c => ?_
    -- The directive is gone by the time that the model replies, so there are two contexts.
    have hstart : R (c.entered (.agent id name a)) _ := h.refl _
    have hafter : R (c.entered (.agent id name a)) _ := h.directive _ none
    refine Process.serves_consult hr (h.enter hr c _ hstart) ⟨rfl, rfl⟩ (h.enter hr c _ hafter)
      fun reply => ?_
    cases hkey : a.outputKey with
    | none => exact .done (h.enter hr c _ hafter)
    | some key =>
      exact .write (h.enter hr c _ hafter) (.done (h.write _ key hr hkey c _ _ hafter))
  | sequence id name steps key ih =>
    refine serves_of_act fun c => ?_
    rw [executable_sequence]
    have hsteps := serves_executables fun s hs => ih s hs (hr.part hs)
    refine Executable.serves_inOrder (hI _) (h.enter hr c) (fun d hd => ?_) hsteps (h.refl _)
    exact Executable.serves_publish (h.enter hr c d hd) fun value => h.write _ key hr rfl c d value hd
  | parallel id name units pool key ih =>
    refine serves_of_act fun c => ?_
    rw [executable_parallel]
    refine Executable.serves_spread hr (h.enter hr c _ (h.refl _)) fun ends hends => ?_
    exact h.enter hr c _ (h.gather hends key)
  | conditional id name routes key ih =>
    refine serves_of_act fun c => ?_
    rw [executable_conditional]
    refine Executable.serves_choose (hI _) (h.enter hr c) (fun x hx => ?_) (h.refl _)
      fun k hk d value hd => h.write _ k hr hk c d value hd
    obtain ⟨route, hroute, rfl⟩ := List.mem_map.mp hx
    exact ih route hroute (hr.part (List.mem_map_of_mem hroute))
  | supervisor id name s subs ih =>
    refine serves_of_act fun c => ?_
    rw [executable_supervisor]
    have hsubs := serves_executables fun r hs => ih r hs (hr.part hs)
    exact Supervisor.serves_deliberate hr (h.enter hr c _ (h.refl _)) hsubs (hI _) (h.enter hr c)
      h.directive (fun d value hd => h.write _ _ hr rfl c d value hd) (h.directive _ none)

theorem serves {r : Runnable μ} (h : Frame r R) : r.executable.Serves r R :=
  serves_within h r.within_self

end Runnable

/-! ## What serving comes to -/

namespace Process

variable {r : Runnable μ} {R : Context → Context → Prop} {Q : Context → Prop} {p : Process μ}

theorem Serves.always (h : p.Serves r R Q) (hframe : Frame r R) :
    Always may p fun _ o => Q o.context := by
  intro log o hp
  induction hp generalizing Q with
  | done => cases h with | done h => exact h
  | report _ ih => cases h with | report h => exact ih h
  | write _ ih => cases h with | write _ h => exact ih h
  | ask _ _ ih => cases h with | ask _ _ _ h => exact ih (h _)
  | @fork pool runs next _ _ _ _ ihruns ih =>
    generalize hstarts : runs.map Ran.start = starts at h
    cases h with
    | @fork id name units size key c _ hs hc h =>
      refine ih (h _ fun o ho => ?_)
      obtain ⟨run, hrun, rfl⟩ := List.mem_map.mp ho
      have hstart : run.start ∈ units.map fun u => u.executable.invoke c.handed :=
        hstarts ▸ List.mem_map_of_mem hrun
      obtain ⟨u, hu, hinvoke⟩ := List.mem_map.mp hstart
      have hserves : (u.executable.invoke c.handed).Serves r R (R c.handed) :=
        Runnable.serves_within hframe (hs.part hu) c.handed
      exact ihruns run hrun (hinvoke ▸ hserves)

theorem permits_pos (pool : Nat) : 0 < Executable.permits pool := by
  have hmax : 1 ≤ Executable.permits pool := Nat.le_max_left 1 pool
  omega

/-- A process is live if all that is invoked by its forks is. -/
theorem Serves.live (h : p.Serves r (fun _ _ => True) Q)
    (hparts : ∀ part ∈ r.parts, ∀ u : Runnable μ, u.Within part → ∀ c, (u.executable.invoke c).Live) :
    p.Live := by
  induction h with
  | done => exact .done
  | report _ ih => exact .report ih
  | write _ _ ih => exact .write ih
  | ask _ _ _ _ ih => exact .ask ih
  | @fork id name units pool key c next hs _ _ ih =>
    refine .fork (permits_pos pool) (fun p hp => ?_) fun outcomes => ih outcomes fun _ _ => trivial
    obtain ⟨u, hu, rfl⟩ := List.mem_map.mp hp
    obtain ⟨part, hpart, hwithin⟩ := hs.below hu
    exact hparts part hpart u hwithin _

end Process

namespace Runnable

theorem live (r : Runnable μ) : ∀ c, (r.executable.invoke c).Live := by
  induction r using within_induction with
  | h r ih => exact fun c => (serves (Frame.trivial r) c).live ih

end Runnable

end AgentGraph
