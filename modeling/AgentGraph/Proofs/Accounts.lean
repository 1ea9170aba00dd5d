import AgentGraph.Proofs.Course
import Mathlib.Algebra.Order.Ring.Nat

/-! Who makes which calls.

In the log of a run the calls of a unit stand among those of its parts. They can be told from each
other by the invocations that are open when a call is made: it is the innermost one that makes it.

* `Log.accounts`: the invocations of a log, each with the calls that it makes itself.
* `Runnable.Allows`: which calls an invocation of a unit may make itself.
* `Visit.Orderly.accounted`: in an orderly visit, every invocation makes only such calls, and there
  are no others. -/
namespace AgentGraph
set_option autoImplicit false

variable {μ : Type}

/-- An invocation with the calls that it makes itself, its parts not included. -/
structure Account (μ : Type) where
  id : String
  kind : NodeKind
  calls : List (μ × Request)

def Account.charge (a : Account μ) (calls : List (μ × Request)) : Account μ :=
  { a with calls := a.calls ++ calls }

namespace Log

mutual

/-- The invocations in the order in which they end; those that are open are given, the innermost
first. -/
def accounts : Log μ → List (Account μ) → List (Account μ)
  | .nil, _ => []
  | .event (.unitStarted id kind) rest, opened => accounts rest (⟨id, kind, []⟩ :: opened)
  | .event (.unitCompleted _) rest, opened => opened.head?.toList ++ accounts rest opened.tail
  | .event (.unitFailed _ _) rest, opened => opened.head?.toList ++ accounts rest opened.tail
  | .event _ rest, opened => accounts rest opened
  | .call model request rest, opened =>
    accounts rest (opened.modifyHead (Account.charge · [(model, request)]))
  | .fork _ branches rest, opened => accountsOfAll branches ++ accounts rest opened

def accountsOfAll : List (Log μ) → List (Account μ)
  | [] => []
  | log :: rest => accounts log [] ++ accountsOfAll rest

end

theorem accounts_ending (id : String) (f : Option Failure) (rest : Log μ)
    (opened : List (Account μ)) : (Log.event (.ending id f) rest).accounts opened =
      opened.head?.toList ++ rest.accounts opened.tail := by
  cases f <;> rfl

/-! ## Calls and what is appended -/

theorem calls_append : (first rest : Log μ) → (first.append rest).calls = first.calls ++ rest.calls
  | .nil, _ => rfl
  | .event _ first, rest => by rw [append, calls, calls, calls_append first rest]
  | .call _ _ first, rest => by rw [append, calls, calls, calls_append first rest, List.cons_append]
  | .fork _ _ first, rest => by
    rw [append, calls, calls, calls_append first rest, List.append_assoc]

theorem callsOfAll_eq_flatten (logs : List (Log μ)) :
    callsOfAll logs = (logs.map calls).flatten := by
  induction logs with
  | nil => rfl
  | cons log rest ih => rw [callsOfAll, ih, List.map_cons, List.flatten_cons]

theorem calls_concat (logs : List (Log μ)) : (concat logs).calls = (logs.map calls).flatten := by
  induction logs with
  | nil => rfl
  | cons log rest ih => rw [concat_cons, calls_append, ih, List.map_cons, List.flatten_cons]

end Log

theorem Visit.calls_log (v : Visit μ) : v.log.calls = v.inside.calls := by
  rw [Visit.log, Log.calls, Log.calls_append]
  exact List.append_nil _

/-! ## What a log charges -/

/-- How many calls the invocations make together. -/
def Account.total (as : List (Account μ)) : Nat := (as.map fun a => a.calls.length).sum

@[simp] theorem Account.total_nil : Account.total ([] : List (Account μ)) = 0 := rfl

@[simp] theorem Account.total_append (as bs : List (Account μ)) :
    Account.total (as ++ bs) = Account.total as + Account.total bs := by
  simp [total]

namespace Log

/-- Between other logs, the log charges the innermost open invocation with calls of its own, and it
holds whole invocations besides. -/
structure Charges (log : Log μ) (own : List (μ × Request)) (as : List (Account μ)) : Prop where
  accounts : ∀ (rest : Log μ) (a : Account μ) (opened : List (Account μ)),
    (log.append rest).accounts (a :: opened) = as ++ rest.accounts (a.charge own :: opened)
  length : log.calls.length = own.length + Account.total as

/-- The log holds whole invocations and nothing else. -/
structure Holds (log : Log μ) (as : List (Account μ)) : Prop where
  accounts : ∀ (rest : Log μ) (opened : List (Account μ)),
    (log.append rest).accounts opened = as ++ rest.accounts opened
  length : log.calls.length = Account.total as

theorem charge_nil (a : Account μ) : a.charge [] = a := by
  rw [Account.charge, List.append_nil]

theorem charge_charge (a : Account μ) (own more : List (μ × Request)) :
    (a.charge own).charge more = a.charge (own ++ more) := by
  rw [Account.charge, Account.charge, Account.charge, List.append_assoc]

variable {first second log : Log μ} {own more : List (μ × Request)} {as bs : List (Account μ)}

theorem Holds.charges (h : log.Holds as) : log.Charges [] as where
  accounts rest a opened := by rw [h.accounts, charge_nil]
  length := by rw [h.length, List.length_nil, Nat.zero_add]

theorem charges_nil : (.nil : Log μ).Charges [] [] where
  accounts rest a opened := by rw [charge_nil, List.nil_append, append]
  length := rfl

theorem Charges.append (hfirst : first.Charges own as) (hsecond : second.Charges more bs) :
    (first.append second).Charges (own ++ more) (as ++ bs) where
  accounts rest a opened := by
    rw [append_assoc, hfirst.accounts, hsecond.accounts, charge_charge, List.append_assoc]
  length := by
    rw [calls_append, List.length_append, hfirst.length, hsecond.length, List.length_append,
      Account.total_append]
    omega

theorem Charges.call (h : log.Charges own as) (model : μ) (request : Request) :
    (Log.call model request log).Charges ((model, request) :: own) as where
  accounts rest a opened := by
    have hrest := h.accounts rest (a.charge [(model, request)]) opened
    rw [charge_charge] at hrest
    exact hrest
  length := by
    rw [calls, List.length_cons, h.length, List.length_cons]
    omega

theorem Charges.note (h : log.Charges own as) (id message : String) (severity : Severity) :
    (Log.event (.note id severity message) log).Charges own as where
  accounts rest a opened := h.accounts rest a opened
  length := h.length

theorem Holds.note (h : log.Holds as) (id message : String) (severity : Severity) :
    (Log.event (.note id severity message) log).Holds as where
  accounts rest opened := h.accounts rest opened
  length := h.length

theorem Holds.append (hfirst : first.Holds as) (hsecond : second.Holds bs) :
    (first.append second).Holds (as ++ bs) where
  accounts rest opened := by
    rw [append_assoc, hfirst.accounts, hsecond.accounts, List.append_assoc]
  length := by
    rw [calls_append, List.length_append, hfirst.length, hsecond.length, Account.total_append]

theorem holds_nil : (.nil : Log μ).Holds [] where
  accounts _ _ := rfl
  length := rfl

theorem Holds.alone (h : log.Holds as) : log.accounts [] = as := by
  have halone := h.accounts .nil []
  rwa [append_nil, Log.accounts, List.append_nil] at halone

/-- The branches of a fork hold their invocations beside each other. -/
theorem Holds.fork {logs : List (Log μ)} (h : (concat logs).Holds as)
    (hlogs : ∀ log ∈ logs, ∃ bs, log.Holds bs) (pool : Nat) :
    (Log.fork pool logs .nil).Holds as where
  accounts rest opened := by
    -- No invocation is open where a branch begins, so the branches may as well stand in a row.
    have hall : accountsOfAll logs = (concat logs).accounts [] := by
      clear h
      induction logs with
      | nil => rfl
      | cons log logs ih =>
        obtain ⟨bs, hlog⟩ := hlogs log List.mem_cons_self
        rw [accountsOfAll, ih fun x hx => hlogs x (List.mem_cons_of_mem _ hx), concat_cons,
          hlog.accounts, hlog.alone]
    rw [Log.append, Log.append, Log.accounts, hall, h.alone]
  length := by
    have hcalls : (Log.fork pool logs .nil).calls = (concat logs).calls := by
      rw [calls, calls, callsOfAll_eq_flatten, calls_concat, List.append_nil]
    rw [hcalls, h.length]

end Log

/-- A visit is an invocation that makes the calls which are charged inside it. -/
theorem Visit.holds {v : Visit μ} {own : List (μ × Request)} {as : List (Account μ)}
    (h : v.inside.Charges own as) : v.log.Holds (as ++ [⟨v.unit.id, v.unit.kind, own⟩]) where
  accounts rest opened := by
    rw [Visit.log, Log.append, Log.append_assoc, Log.accounts, h.accounts, Log.append,
      Log.accounts_ending, List.append_assoc]
    rfl
  length := by
    rw [Visit.calls_log, h.length, Account.total_append, Account.total]
    simp [Account.total]
    omega

/-! ## What each unit may do -/

open Supervisor in
/-- Which calls an invocation of the unit may make itself: an agent asks once; a supervisor asks for
the steps of a plan and then for at most one comparison; the others ask nothing. -/
def Runnable.Allows : Runnable μ → List (μ × Request) → Prop
  | .agent _ _ a, calls => ∃ request, calls = [(a.model, request)]
  | .supervisor _ _ s subs, calls => ∃ plans scores, calls = plans ++ scores ∧
      plans.length ≤ max 1 s.maxSteps ∧ scores.length ≤ 1 ∧
      (∀ call ∈ plans, call.1 = s.model ∧ Plans (subs.map Runnable.executable) call.2) ∧
      ∀ call ∈ scores, call.1 = s.model ∧ Compares call.2
  | _, calls => calls = []

/-- The invocations are of units within the runnable, and make only calls that these allow. -/
def Runnable.Keeps (r : Runnable μ) (as : List (Account μ)) : Prop :=
  ∀ a ∈ as, ∃ s : Runnable μ, s.Within r ∧ s.id = a.id ∧ s.kind = a.kind ∧ s.Allows a.calls

namespace Runnable

variable {r s : Runnable μ} {as bs : List (Account μ)}

theorem keeps_nil : r.Keeps ([] : List (Account μ)) := fun _ ha => nomatch ha

theorem Keeps.append (has : r.Keeps as) (hbs : r.Keeps bs) : r.Keeps (as ++ bs) :=
  List.forall_mem_append.mpr ⟨has, hbs⟩

theorem Keeps.of_part (h : s.Keeps as) (hs : s ∈ r.parts) : r.Keeps as := by
  intro a ha
  obtain ⟨t, ht, hid, hkind, hallows⟩ := h a ha
  exact ⟨t, ht.of_part hs, hid, hkind, hallows⟩

end Runnable

/-- The visit holds invocations of units within its own one, and each makes only calls that it may
make itself. -/
def Visit.Accounted (v : Visit μ) : Prop := ∃ as, v.unit.Keeps as ∧ v.log.Holds as

namespace Visit

theorem accounted {v : Visit μ} {own : List (μ × Request)} {as : List (Account μ)}
    (hallows : v.unit.Allows own) (hkeeps : v.unit.Keeps as) (h : v.inside.Charges own as) :
    v.Accounted := by
  refine ⟨as ++ [⟨v.unit.id, v.unit.kind, own⟩], hkeeps.append fun a ha => ?_, Visit.holds h⟩
  rw [List.mem_singleton.mp ha]
  exact ⟨v.unit, v.unit.within_self, rfl, rfl, hallows⟩

theorem accounted_concat {r : Runnable μ} {visits : List (Visit μ)}
    (h : ∀ v ∈ visits, v.Accounted) (hparts : ∀ v ∈ visits, v.unit ∈ r.parts) :
    ∃ as, r.Keeps as ∧ (Log.concat (visits.map Visit.log)).Holds as := by
  induction visits with
  | nil => exact ⟨[], Runnable.keeps_nil, Log.holds_nil⟩
  | cons v rest ih =>
    obtain ⟨as, hkeeps, hholds⟩ := h v List.mem_cons_self
    obtain ⟨bs, hrest, hholdsRest⟩ := ih (fun x hx => h x (List.mem_cons_of_mem _ hx))
      fun x hx => hparts x (List.mem_cons_of_mem _ hx)
    exact ⟨as ++ bs, (hkeeps.of_part (hparts v List.mem_cons_self)).append hrest,
      hholds.append hholdsRest⟩

end Visit

namespace Supervisor

variable {id : String} {s : Setup μ} {limit : Nat} {rounds : List (Round μ)} {f : Option Failure}
  {ending : Log μ}

theorem charges_rounds (id : String) (s : Setup μ) {r : Runnable μ}
    (h : ∀ x ∈ rounds, x.visit.Accounted)
    (hparts : ∀ x ∈ rounds, x.visit.unit ∈ r.parts) : ∃ as, r.Keeps as ∧
      (Log.concat (rounds.map (Round.log id s))).Charges
        (rounds.map fun x => (s.model, x.request)) as := by
  induction rounds with
  | nil => exact ⟨[], Runnable.keeps_nil, Log.charges_nil⟩
  | cons x rest ih =>
    obtain ⟨as, hkeeps, hholds⟩ := h x List.mem_cons_self
    obtain ⟨bs, hrest, hcharges⟩ := ih (fun y hy => h y (List.mem_cons_of_mem _ hy))
      fun y hy => hparts y (List.mem_cons_of_mem _ hy)
    have hround : (x.log id s).Charges [(s.model, x.request)] as :=
      (hholds.charges.note _ _ _).call _ _
    exact ⟨as ++ bs, (hkeeps.of_part (hparts x List.mem_cons_self)).append hrest,
      hround.append hcharges⟩

/-- With what it asks after the last round, a plan has no more steps than it may have. -/
theorem Ending.charges {subs : List (Executable μ)} (h : Ending id s subs limit rounds f ending) :
    ∃ plans scores, ending.Charges (plans ++ scores) [] ∧ rounds.length + plans.length ≤ limit ∧
      scores.length ≤ 1 ∧ (∀ call ∈ plans, call.1 = s.model ∧ Plans subs call.2) ∧
      ∀ call ∈ scores, call.1 = s.model ∧ Compares call.2 := by
  have hnone {P : μ × Request → Prop} : ∀ call ∈ ([] : List (μ × Request)), P call :=
    fun _ hcall => nomatch hcall
  cases h with
  | failed hlength =>
    refine ⟨[], [], Log.charges_nil, ?_, Nat.zero_le 1, hnone, hnone⟩
    rw [List.length_append, List.length_singleton, List.length_nil]
    omega
  | limited hlength =>
    exact ⟨[], [], Log.charges_nil.note _ _ _, hlength.le, Nat.zero_le 1, hnone, hnone⟩
  | @stopped _ request _ hlength _ hplans =>
    have hone : ∀ call ∈ [(s.model, request)], call.1 = s.model ∧ Plans subs call.2 :=
      List.forall_mem_singleton.mpr ⟨rfl, hplans⟩
    exact ⟨[(s.model, request)], [], Log.charges_nil.call _ _, hlength, Nat.zero_le 1, hone, hnone⟩
  | @scored _ request verdict _ hlength _ hplans hcompares =>
    have hone : ∀ call ∈ [(s.model, request)], call.1 = s.model ∧ Plans subs call.2 :=
      List.forall_mem_singleton.mpr ⟨rfl, hplans⟩
    have hverdict : ∀ call ∈ [(s.model, verdict)], call.1 = s.model ∧ Compares call.2 :=
      List.forall_mem_singleton.mpr ⟨rfl, hcompares⟩
    exact ⟨[(s.model, request)], [(s.model, verdict)], (Log.charges_nil.call _ _).call _ _, hlength,
      le_rfl, hone, hverdict⟩

end Supervisor

/-! ## Visits -/

theorem Visit.Orderly.accounted {v : Visit μ} (h : v.Orderly) : v.Accounted := by
  induction h with
  | @agent _ _ a _ request =>
    exact Visit.accounted ⟨request, rfl⟩ Runnable.keeps_nil (Log.charges_nil.call a.model request)
  | @sequence id name key visits _ _ ih =>
    obtain ⟨as, hkeeps, hholds⟩ := Visit.accounted_concat
      (r := .sequence id name (visits.map Visit.unit) key) ih fun v hv => List.mem_map_of_mem hv
    exact Visit.accounted rfl hkeeps hholds.charges
  | @interrupted id name key visits last rest _ _ _ _ _ ih ihlast =>
    obtain ⟨as, hkeeps, hholds⟩ := Visit.accounted_concat
      (r := .sequence id name (visits.map Visit.unit ++ last.unit :: rest) key) ih fun v hv =>
        List.mem_append_left _ (List.mem_map_of_mem hv)
    obtain ⟨bs, hlast, hholdsLast⟩ := ihlast
    have hpart := hlast.of_part (r := .sequence id name (visits.map Visit.unit ++ last.unit :: rest)
      key) (List.mem_append_right _ List.mem_cons_self)
    exact Visit.accounted rfl (hkeeps.append hpart) (hholds.append hholdsLast).charges
  | @parallel id name pool key visits _ ih =>
    obtain ⟨as, hkeeps, hholds⟩ := Visit.accounted_concat
      (r := .parallel id name (visits.map Visit.unit) pool key) ih fun v hv => List.mem_map_of_mem hv
    refine Visit.accounted rfl hkeeps (hholds.fork (fun log hlog => ?_) _).charges
    obtain ⟨v, hv, rfl⟩ := List.mem_map.mp hlog
    obtain ⟨bs, -, hbs⟩ := ih v hv
    exact ⟨bs, hbs⟩
  | unmatched => exact Visit.accounted rfl Runnable.keeps_nil Log.charges_nil
  | @routed id name routes key _ _ hroute _ ih =>
    obtain ⟨as, hkeeps, hholds⟩ := ih
    have hpart := hkeeps.of_part (r := .conditional id name routes key) (List.mem_map_of_mem hroute)
    exact Visit.accounted rfl hpart (hholds.note _ _ _).charges
  | @supervisor id name s subs _ _ _ _ hsubs hplans hending ih =>
    obtain ⟨as, hkeeps, hrounds⟩ :=
      Supervisor.charges_rounds id s (r := .supervisor id name s subs) ih hsubs
    obtain ⟨plans, scores, hcharges, hlength, hscores, hmore, hcompares⟩ := hending.charges
    refine Visit.accounted ⟨_, scores, (List.append_assoc ..).symm, ?_, hscores, ?_, hcompares⟩
      (hkeeps.append Runnable.keeps_nil) (hrounds.append hcharges)
    · rw [List.length_append, List.length_map]
      exact hlength
    · refine List.forall_mem_append.mpr ⟨fun call hcall => ?_, hmore⟩
      obtain ⟨x, hx, rfl⟩ := List.mem_map.mp hcall
      exact ⟨rfl, hplans x hx⟩

end AgentGraph
