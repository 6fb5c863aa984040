import DemandPaging.Proofs.Service.Tally

/-!
# Services that tell of hits

A service may tell the dispatcher of the references without a fault, or keep them to itself.
The choice shows in the notices and nowhere else.
-/

namespace DemandPaging.PageService

/-- The service, told whether to tell of hits. -/
def reporting (service : PageService) (hits : Bool) : PageService :=
  { service with reportsHits := hits }

/-- The notices of everything but hits, in order. -/
def withoutHits (notices : List Notice) : List Notice := notices.filter (·.event != .hit)

variable {service last : PageService} {pid : Nat} {request : Request} {served : Served}
  {requests : List (Nat × Request)} {answers : List Served}

theorem fresh_reporting (settings : Settings) (hits : Bool) :
    fresh { settings with reportsHits := hits } =
      (fresh settings).map fun service => service.reporting hits := by
  unfold fresh
  cases Pager.fresh settings.processes settings.pages settings.frames <;> rfl

/-! ## One request -/

/-- A request goes the same way, and only the notice of a hit depends on what is told. -/
theorem Serves.reporting (hits : Bool) (hserves : service.Serves pid request served) :
    ∃ notice, (service.reporting hits).Serves pid request
        ⟨served.service.reporting hits, served.reply, notice⟩ ∧
      withoutHits notice.toList = withoutHits served.notice.toList := by
  cases hserves with
  | @access _ _ pager resolution haccess =>
      refine ⟨((service.reporting hits).event? resolution).map (⟨pid, ·⟩), .access haccess, ?_⟩
      cases resolution with
      | hit =>
          simp only [event?, PageService.reporting]
          cases hits <;> cases service.reportsHits <;> rfl
      | illegal | loaded | replaced | starved => rfl
  | released hfirst hreclaims hevacuate => exact ⟨_, .released hfirst hreclaims hevacuate, rfl⟩
  | kept hfirst hkeeps => exact ⟨_, .kept hfirst hkeeps, rfl⟩
  | repeated hlater => exact ⟨_, .repeated hlater, rfl⟩

/-! ## Many requests -/

theorem noticesOf_cons (served : Served) (answers : List Served) :
    noticesOf (served :: answers) = served.notice.toList ++ noticesOf answers := by
  rw [noticesOf, List.filterMap_cons]
  cases served.notice <;> rfl

theorem withoutHits_append (notices others : List Notice) :
    withoutHits (notices ++ others) = withoutHits notices ++ withoutHits others :=
  List.filter_append notices others

/-- Whether a service tells of hits makes no difference but to the notices of them. -/
theorem ServesAll.reporting (hits : Bool) (hserves : ServesAll service requests answers last) :
    ∃ others, ServesAll (service.reporting hits) requests others (last.reporting hits) ∧
      others.map (·.reply) = answers.map (·.reply) ∧
      withoutHits (noticesOf others) = withoutHits (noticesOf answers) := by
  induction hserves with
  | nil => exact ⟨[], .nil, rfl, rfl⟩
  | cons hserves _ ih =>
      obtain ⟨notice, hother, hnotice⟩ := hserves.reporting hits
      obtain ⟨others, hrest, hreplies, hnotices⟩ := ih
      refine ⟨_, .cons hother hrest, ?_, ?_⟩
      · rw [List.map_cons, List.map_cons, hreplies]
      · rw [noticesOf_cons, noticesOf_cons, withoutHits_append, withoutHits_append, hnotice,
          hnotices]

/-- A service that keeps hits to itself tells of none. -/
theorem ServesAll.withoutHits_eq (hserves : ServesAll service requests answers last)
    (hquiet : service.reportsHits = false) :
    withoutHits (noticesOf answers) = noticesOf answers := by
  induction hserves with
  | nil => rfl
  | cons hserves _ ih =>
      rw [noticesOf_cons, withoutHits_append, ih (hserves.reportsHits_eq.trans hquiet)]
      congr 1
      cases hserves with
      | @access page bound pager resolution =>
          cases resolution with
          | hit => simp [event?, hquiet, withoutHits]
          | illegal | loaded | replaced | starved => rfl
      | released | kept | repeated => rfl

end DemandPaging.PageService
