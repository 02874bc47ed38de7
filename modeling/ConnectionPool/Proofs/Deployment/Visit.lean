import ConnectionPool.Deployment.Visit
import ConnectionPool.Proofs.Deployment.Hosting

/-!
Contract: whatever visitors do, the servers serve.

Owns: the calls of visitors as what goes on between two calls of the host.

Does not own: what visitors are told.
-/

namespace ConnectionPool

/-- Only the line that is there matters. -/
theorem Site.modifyLine_eq {site : Site} {number : Nat} {line : Line} {change : Line → Line}
    (found : site.lines[number]? = some line) :
    site.modifyLine number (fun _ => change line) = site.modifyLine number change := by
  have lines : site.lines.modify number (fun _ => change line) = site.lines.modify number change := by
    refine List.ext_getElem? fun other => ?_
    rw [List.getElem?_modify, List.getElem?_modify]
    split
    · next same => rw [← same, found]; rfl
    · rfl
  rw [modifyLine, lines, modifyLine]

namespace Deployment

variable {deployment : Deployment}

/-- Nothing but the visitors has changed. -/
theorem served_of_visitors (orderly : deployment.Orderly) (visitors : List Visitor) :
    deployment.Served { deployment with visitors } where
  traffic := ⟨deployment.site, .refl, by rw [← orderly.quiet]⟩
  transports := rfl

theorem Serves.orderly {before after : Deployment} (serves : before.Serves after)
    (orderly : before.Orderly) : after.Orderly :=
  (Serves.concerns serves orderly).orderly

/-- A fold serves if each of its steps does. -/
theorem serves_foldl {Item : Type} {step : Deployment → Item → Deployment}
    (each : ∀ (deployment : Deployment) item, deployment.Orderly →
      deployment.Serves (step deployment item))
    (items : List Item) (orderly : deployment.Orderly) :
    deployment.Serves (items.foldl step deployment) := by
  induction items generalizing deployment with
  | nil => exact .refl
  | cons item items inductionHypothesis =>
      have first := each deployment item orderly
      exact first.trans (inductionHypothesis (Serves.orderly first orderly))

theorem handOver_serves (deployment : Deployment) (number : Nat) (orderly : deployment.Orderly) :
    deployment.Serves (deployment.handOver number) := by
  unfold handOver
  split
  · exact .refl
  · next visitor _ =>
      split
      · exact .refl
      · have handed := served_of_visitors orderly
          (deployment.visitors.set number { visitor with early := [] })
        refine .head handed (serves_foldl (fun deployment event orderly => ?_) _
          (handed.concerns orderly).orderly)
        exact .single (served_perform orderly (Site.receive_traffic _ _ _ _))

theorem settle_serves (deployment : Deployment) (orderly : deployment.Orderly) :
    deployment.Serves deployment.settle :=
  serves_foldl (fun _ _ orderly => serves_foldl handOver_serves _ orderly) _ orderly

theorem occur_serves (number : Nat) (event : Inbound) (orderly : deployment.Orderly) :
    deployment.Serves (deployment.occur number event) := by
  have noted := served_of_visitors orderly (deployment.modifyVisitor number fun visitor =>
    { visitor with early := visitor.early ++ [event] }).visitors
  exact .head noted (settle_serves _ (noted.concerns orderly).orderly)

/-- A visitor arrives at a server that was found for it. -/
theorem arrive_serves (visitor : Visitor) (orderly : deployment.Orderly) :
    deployment.Serves (({ deployment with visitors := deployment.visitors ++ [visitor] }.perform
      (Site.connect visitor.server visitor.descriptor)).2.settle) := by
  have noted := served_of_visitors orderly (deployment.visitors ++ [visitor])
  have orderlyThen := (noted.concerns orderly).orderly
  have connected := served_perform orderlyThen
    (Site.connect_traffic deployment.site visitor.server visitor.descriptor)
  exact .head noted (.head connected (settle_serves _ (connected.concerns orderlyThen).orderly))

/-- A new client. -/
theorem connect_serves (position : Nat) (orderly : deployment.Orderly) :
    deployment.Serves (deployment.connect position).2 := by
  unfold connect
  dsimp only
  split
  · exact .refl
  · next listener _ =>
      let owner := deployment.transports.findIdx fun transport => transport.listener = some listener
      exact arrive_serves {
        server := owner
        descriptor := { kind := .localSocket, handle := deployment.visitors.length } } orderly

theorem send_serves (number : Nat) (data : Bytes) (orderly : deployment.Orderly) :
    deployment.Serves (deployment.send number data).2 := by
  unfold send
  split
  · exact .refl
  · next visitor _ =>
      have whether (isClosed : Bool) : deployment.Serves
          (if isClosed || visitor.isFinished then (false, deployment)
          else if data.isEmpty then (true, deployment)
          else (true, deployment.occur number (.bytes data))).2 := by
        split
        · exact .refl
        · split
          · exact .refl
          · exact occur_serves number (.bytes data) orderly
      exact whether _

/-- What a visitor receives is taken off the near end of its line. -/
theorem receive_serves (number : Nat) (limit : Option Nat) (orderly : deployment.Orderly) :
    deployment.Serves (deployment.receive number limit).2 := by
  unfold receive
  split
  · exact .refl
  · split
    · exact .refl
    · next position _ =>
        split
        · exact .refl
        · next line found =>
            have collected : deployment.site.Happens
                (deployment.site.modifyLine position fun line => (line.collect limit).2) :=
              .farEnd position _ fun line => line.collect_lasts limit
            rw [← Site.modifyLine_eq found] at collected
            exact .single ⟨⟨_, .single collected, by rw [← orderly.quiet]; rfl⟩, rfl⟩

theorem finish_serves (number : Nat) (orderly : deployment.Orderly) :
    deployment.Serves (deployment.finish number) := by
  have noted := served_of_visitors orderly (deployment.modifyVisitor number fun visitor =>
    { visitor with isFinished := true }).visitors
  exact .head noted (occur_serves number .hangUp (noted.concerns orderly).orderly)

theorem leave_serves (number : Nat) (orderly : deployment.Orderly) :
    deployment.Serves (deployment.leave number) := by
  have noted := served_of_visitors orderly (deployment.modifyVisitor number fun visitor =>
    { visitor with isFinished := true, isGone := true }).visitors
  exact .head noted (occur_serves number .hangUp (noted.concerns orderly).orderly)

/-- Workers that have been idle for long retire. -/
theorem awaitWorkers_serves (position all : Nat) (orderly : deployment.Orderly) :
    deployment.Serves (deployment.awaitWorkers position all) := by
  unfold awaitWorkers
  exact .single (served_perform orderly (Site.retireFor_traffic _ _ _ _))

end Deployment

end ConnectionPool
