import DemandPaging.Proofs.Admission.OnlyEnds
import DemandPaging.Proofs.Service.HitNotices
import DemandPaging.Proofs.Simulation.Acceptance

/-!
# Telling of hits changes nothing

The dispatcher may be told of each reference without a fault. It makes no difference to the
service but for these notices, none to the dispatcher, and so none to a simulation: a run
depends on its clients, the dimensions, and whether frames are reclaimed.
-/

namespace DemandPaging

open PageService

variable {settings others : Settings} {clients : List Client} {simulation other : Simulation}

/-- A conversation goes the same way at a service that tells of other things. -/
theorem Talks.reporting {pid : Nat} {bound : Int} {desk final : Desk} {references : List Int}
    {outcomes : List Outcome} (hits : Bool)
    (htalks : Talks pid bound desk references final outcomes) {otherDesk : Desk}
    (hdesk : otherDesk.service = desk.service.reporting hits) :
    ∃ otherFinal, Talks pid bound otherDesk references otherFinal outcomes ∧
      otherFinal.service = final.service.reporting hits := by
  induction htalks generalizing otherDesk with
  | last hrequest hserve =>
      obtain ⟨notice, hother, -⟩ := (serves_of_eq_ok hserve).reporting hits
      rw [← hdesk] at hother
      exact ⟨_, .last hrequest hother.serve_eq, rfl⟩
  | @more desk final page references served outcomes hrequest hserve _ ih =>
      obtain ⟨notice, hother, -⟩ := (serves_of_eq_ok hserve).reporting hits
      rw [← hdesk] at hother
      have hnext : (otherDesk.handled ⟨pid, .access page bound, true⟩
          ⟨served.service.reporting hits, served.reply, notice⟩).service =
        (desk.handled ⟨pid, .access page bound, true⟩ served).service.reporting hits := rfl
      obtain ⟨otherFinal, hrest, hfinal⟩ := ih hnext
      have hmore := Talks.more hrequest hother.serve_eq hrest
      exact ⟨otherFinal, hmore, hfinal⟩

theorem Performs.reporting {desk final : Desk} {rest : List (List Outcome)} (hits : Bool)
    (hperforms : Performs desk clients final rest) {otherDesk : Desk}
    (hdesk : otherDesk.service = desk.service.reporting hits) :
    ∃ otherFinal, Performs otherDesk clients otherFinal rest ∧
      otherFinal.service = final.service.reporting hits := by
  induction hperforms generalizing otherDesk with
  | nil => exact ⟨otherDesk, .nil, hdesk⟩
  | cons htalks _ ih =>
      obtain ⟨middle, hmiddle, hservice⟩ := htalks.reporting hits hdesk
      obtain ⟨otherFinal, hrest, hfinal⟩ := ih hservice
      exact ⟨otherFinal, .cons hmiddle hrest, hfinal⟩

namespace Simulation

/-- A run depends on the clients, the dimensions, and whether frames are reclaimed. -/
theorem run_eq_of_settings (hof : of settings clients = .ok simulation)
    (hother : of others clients = .ok other) (hpages : others.pages = settings.pages)
    (hframes : others.frames = settings.frames)
    (hreclaims : others.reclaims = settings.reclaims) : other.run = simulation.run := by
  obtain ⟨rfl, hlength, hnumbered⟩ := of_eq_ok hof
  obtain ⟨rfl, hotherLength, -⟩ := of_eq_ok hother
  have hprocesses : others.processes = settings.processes := hotherLength.symm.trans hlength
  have hfresh : fresh others = (fresh settings).map (·.reporting others.reportsHits) := by
    rw [← fresh_reporting]
    simp only [fresh, hprocesses, hpages, hframes, hreclaims]
  cases hstart : fresh settings with
  | error failure =>
      rw [hstart] at hfresh
      have hfails : run { settings, clients } = .error failure := run_of_fresh_error hstart
      rw [hfails]
      exact run_of_fresh_error hfresh
  | ok start =>
      rw [hstart] at hfresh
      obtain ⟨final, rest, hrun⟩ := exists_performs hof hstart
      have hdesk : (⟨start.reporting others.reportsHits, #[]⟩ : Desk).service =
        (⟨start, #[]⟩ : Desk).service.reporting others.reportsHits := rfl
      obtain ⟨otherFinal, hotherRun, hfinal⟩ := hrun.reporting others.reportsHits hdesk
      have hreport : run { settings, clients } =
          .ok (reportOf { settings, clients } final.service rest) :=
        run_eq_ok hstart hnumbered hlength hrun
      have hotherReport : run { settings := others, clients } =
          .ok (reportOf { settings := others, clients } otherFinal.service rest) :=
        run_eq_ok hfresh hnumbered hotherLength hotherRun
      rw [hotherReport, hreport]
      simp only [reportOf, hfinal, hprocesses]
      rfl

theorem of_reporting (settings : Settings) (clients : List Client) (hits : Bool) :
    of { settings with reportsHits := hits } clients =
      (of settings clients).map fun simulation =>
        { simulation with settings := { settings with reportsHits := hits } } := by
  have hcheck : ({ settings with reportsHits := hits } : Settings).check = settings.check := rfl
  simp only [of, hcheck]
  cases settings.check with
  | error fault => rfl
  | ok =>
      simp only [bind, Except.bind]
      split
      next => rfl
      next => split <;> rfl

end Simulation

/-- Two services that differ in nothing but whether they tell of hits answer any requests
alike, are in the same state afterwards, and send the same notices but for one of each hit.
As a part of the requests is a sequence of requests too, this holds after each one. The
dispatcher does the same whether it is told of hits and faults or not. So a simulation is
accepted with both settings or with none, and comes to the same report or the same failure. -/
theorem hit_notices_change_nothing :
    (∀ settings : Settings,
      fresh { settings with reportsHits := true } =
        (fresh { settings with reportsHits := false }).map (·.reporting true) ∧
      ∀ start, fresh { settings with reportsHits := false } = .ok start → ∀ requests,
        ∃ last answers loudAnswers, start.serveAll requests = .ok (last, answers) ∧
          (start.reporting true).serveAll requests = .ok (last.reporting true, loudAnswers) ∧
          loudAnswers.map (·.reply) = answers.map (·.reply) ∧
          withoutHits (noticesOf loudAnswers) = noticesOf answers ∧
          ∀ pid, (noticesOf loudAnswers).count ⟨pid, .hit⟩ =
            (last.pager.countersOf pid).hits) ∧
    (∀ waiting expected registrations notices others, endsOf notices = endsOf others →
      (dispatch waiting expected registrations notices).ComesTo
        (dispatch waiting expected registrations others) ∧
      ∀ hasSender patience,
        (dispatch waiting expected registrations notices).result? hasSender patience =
          (dispatch waiting expected registrations others).result? hasSender patience) ∧
    ∀ (settings : Settings) (clients : List Client),
      (Simulation.of { settings with reportsHits := true } clients).map (·.run) =
        (Simulation.of { settings with reportsHits := false } clients).map (·.run) := by
  refine ⟨fun settings => ⟨?_, ?_⟩, ?_, ?_⟩
  · exact fresh_reporting { settings with reportsHits := false } true
  · intro start hstart requests
    obtain ⟨hsound, -⟩ := fresh_sound hstart
    obtain ⟨hpager, -, hquiet, -⟩ := fresh_eq_ok hstart
    obtain ⟨last, answers, hserves⟩ := exists_servesAll hsound requests
    obtain ⟨loudAnswers, hloud, hreplies, hnotices⟩ := hserves.reporting true
    have hloudSound : (start.reporting true).Sound :=
      ⟨hsound.coherent, hsound.nodup_ended, hsound.ended_lt⟩
    refine ⟨last, answers, loudAnswers, hserves.serveAll_eq, hloud.serveAll_eq, hreplies,
      hnotices.trans (hserves.withoutHits_eq hquiet), fun pid => ?_⟩
    have hhits := (hloud.tallies hloudSound pid).hits_eq rfl
    have hblank : (start.reporting true).pager.countersOf pid = {} :=
      Pager.countersOf_of_fresh hpager pid
    rw [hblank, Nat.zero_add] at hhits
    exact hhits.symm
  · intro waiting expected registrations notices others hends
    have hcomes := dispatch_comesTo waiting expected registrations hends
    exact ⟨hcomes, hcomes.result?_eq⟩
  · intro settings clients
    have hloud := Simulation.of_reporting { settings with reportsHits := false } clients true
    cases hof : Simulation.of { settings with reportsHits := false } clients with
    | error fault =>
        rw [hof] at hloud
        rw [hloud]
        rfl
    | ok simulation =>
        rw [hof] at hloud
        rw [hloud]
        exact congrArg Except.ok (Simulation.run_eq_of_settings hof hloud rfl rfl rfl)

/-- A hit between two faults, and an end that is reported out of turn. -/
theorem one_hit_notice_changes_nothing :
    (∃ start last answers loudAnswers,
      fresh { processes := 2, pages := 2, frames := 1, reclaims := true } = .ok start ∧
      start.serveAll [(0, .access 0 2), (0, .access 0 2), (0, .endOfStream), (1, .access 1 2)] =
        .ok (last, answers) ∧
      (start.reporting true).serveAll
        [(0, .access 0 2), (0, .access 0 2), (0, .endOfStream), (1, .access 1 2)] =
          .ok (last.reporting true, loudAnswers) ∧
      withoutHits (noticesOf loudAnswers) = noticesOf answers ∧
      (noticesOf loudAnswers).count ⟨0, .hit⟩ = (last.pager.countersOf 0).hits) ∧
    (dispatch (fun _ => true) 2 [⟨1, 0⟩, ⟨0, 1⟩] [⟨0, .hit⟩, ⟨0, .ended⟩, ⟨1, .fault⟩,
        ⟨1, .ended⟩]).ComesTo
      (dispatch (fun _ => true) 2 [⟨1, 0⟩, ⟨0, 1⟩] [⟨1, .hit⟩, ⟨0, .ended⟩, ⟨1, .ended⟩,
        ⟨0, .fault⟩]) ∧
    ∃ simulation loud,
      Simulation.of { processes := 2, pages := 2, frames := 1 } [⟨0, 2, [0, 0]⟩, ⟨1, 2, [1]⟩] =
        .ok simulation ∧
      Simulation.of { processes := 2, pages := 2, frames := 1, reportsHits := true }
        [⟨0, 2, [0, 0]⟩, ⟨1, 2, [1]⟩] = .ok loud ∧
      loud.run = simulation.run := by
  refine ⟨?_, ?_, ?_⟩
  · obtain ⟨start, hstart⟩ : ∃ start,
        fresh { processes := 2, pages := 2, frames := 1, reclaims := true } = .ok start := ⟨_, rfl⟩
    obtain ⟨last, answers, loudAnswers, hserveAll, hloud, -, hnotices, hhits⟩ :=
      (hit_notices_change_nothing.1 { processes := 2, pages := 2, frames := 1, reclaims := true }).2
        start hstart [(0, .access 0 2), (0, .access 0 2), (0, .endOfStream), (1, .access 1 2)]
    exact ⟨start, last, answers, loudAnswers, hstart, hserveAll, hloud, hnotices, hhits 0⟩
  · exact (hit_notices_change_nothing.2.1 _ _ _ _ _ (by decide)).1
  · have hrun := hit_notices_change_nothing.2.2 { processes := 2, pages := 2, frames := 1 }
      [⟨0, 2, [0, 0]⟩, ⟨1, 2, [1]⟩]
    exact ⟨_, _, rfl, rfl, Except.ok.inj hrun⟩

end DemandPaging
