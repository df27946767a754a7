import Mathlib.Algebra.BigOperators.Group.List.Basic
import SwiftInterface.Proofs.Render.Session

/-!
# Renderers that are used again

A renderer keeps counts from one use to the next.  A forest starts them anew
and a single declaration adds to them, so after any sequence of uses they are
the sum of what renderers without a past would count, taken from the last
forest on.  The answers do not depend on the past at all, and a forest may be
rendered in two pieces.
-/

namespace SwiftInterface

namespace Render

instance : Zero Counts where
  zero := {}

instance : AddMonoid Counts where
  add_assoc first second third := by
    ext <;> simp [Nat.add_assoc]
  zero_add counts := by
    change ({} : Counts) + counts = counts
    ext <;> simp
  add_zero counts := by
    change counts + ({} : Counts) = counts
    ext <;> simp
  nsmul := nsmulRec

/-- A use of a renderer. -/
inductive Request where
  | forest (forest : Forest)
  | declaration (declaration : Declaration)

/-- What a renderer returns: the blocks of a forest, or the text of a
declaration unless it is dropped. -/
inductive Answer where
  | blocks (texts : List String)
  | block (text : Option String)
deriving DecidableEq

def Request.isForest : Request → Bool
  | forest _ => true
  | declaration _ => false

/-- The requests from the last forest on; all of them if there is none. -/
def sinceForest : List Request → List Request
  | [] => []
  | request :: requests =>
      if requests.any Request.isForest then sinceForest requests
      else request :: requests

namespace Session

def serve (session : Session) : Request → Run (Answer × Session)
  | .forest forest => do
      let (texts, used) ← session.renderForest forest
      return (.blocks texts, used)
  | .declaration declaration => do
      let (text, used) ← session.renderDeclaration declaration
      return (.block text, used)

/-- Serve requests by one renderer.  Each answer is kept with the counts that
the renderer shows after it. -/
def serveAll (session : Session) :
    List Request → Run (List (Answer × Counts))
  | [] => return []
  | request :: requests => do
      let (answer, used) ← session.serve request
      let later ← used.serveAll requests
      return (answer, used.counts) :: later

end Session

/-- The answer and the counts of a renderer that was not used before. -/
def fresh (options : Options) : Request → Answer × Counts
  | .forest forest =>
      (.blocks (renderForest options forest).output,
        (renderForest options forest).counts)
  | .declaration declaration =>
      (.block (renderDeclaration options declaration).output,
        (renderDeclaration options declaration).counts)

/-- The counts after requests, by renderers that were not used before. -/
def countsAfter (options : Options) (requests : List Request) : Counts :=
  ((sinceForest requests).map fun request => (fresh options request).2).sum

theorem sinceForest_append_forest (requests : List Request) (forest : Forest) :
    sinceForest (requests ++ [.forest forest]) = [.forest forest] := by
  induction requests with
  | nil => rfl
  | cons request requests ih =>
      have found : (requests ++ [Request.forest forest]).any
          Request.isForest = true := by
        simp [Request.isForest]
      rw [List.cons_append, sinceForest, if_pos found, ih]

theorem sinceForest_append_declaration (requests : List Request)
    (declaration : Declaration) :
    sinceForest (requests ++ [.declaration declaration]) =
      sinceForest requests ++ [.declaration declaration] := by
  induction requests with
  | nil => rfl
  | cons request requests ih =>
      have same : (requests ++ [Request.declaration declaration]).any
          Request.isForest = requests.any Request.isForest := by
        simp [Request.isForest]
      rw [List.cons_append, sinceForest, sinceForest, same, ih]
      split
      · rfl
      · rfl

/-! ## One use -/

/-- One use answers as a fresh renderer does, whatever the counts are, and
leaves the counts of the requests up to it. -/
theorem serve_run (options : Options) (served : List Request)
    (request : Request) (world : World) :
    ∃ after, Session.serve ⟨options, countsAfter options served⟩ request world =
      .ok ((fresh options request).1,
        ⟨options, countsAfter options (served ++ [request])⟩) after := by
  cases request with
  | forest forest =>
      have counts : countsAfter options (served ++ [.forest forest]) =
          (renderForest options forest).counts := by
        rw [countsAfter, sinceForest_append_forest]
        exact List.sum_singleton
      rw [counts, Session.serve,
        Run.bind_ok (Session.renderForest_run _ forest world)]
      exact ⟨_, rfl⟩
  | declaration declaration =>
      have counts : countsAfter options (served ++ [.declaration declaration]) =
          countsAfter options served +
            (renderDeclaration options declaration).counts := by
        rw [countsAfter, sinceForest_append_declaration, List.map_append,
          List.sum_append]
        exact congrArg _ List.sum_singleton
      rw [counts, Session.serve,
        Run.bind_ok (Session.renderDeclaration_run _ declaration world)]
      exact ⟨_, rfl⟩

/-! ## Any number of uses -/

theorem serveAll_run (options : Options) (served : List Request)
    (requests : List Request) (world : World) :
    ∃ replies after,
      Session.serveAll ⟨options, countsAfter options served⟩ requests world =
          .ok replies after ∧
        replies.length = requests.length ∧
          ∀ before request behind, requests = before ++ request :: behind →
            replies[before.length]? = some ((fresh options request).1,
              countsAfter options (served ++ (before ++ [request]))) := by
  induction requests generalizing served world with
  | nil => exact ⟨[], world, rfl, rfl, by simp⟩
  | cons first requests ih =>
      obtain ⟨middle, answered⟩ := serve_run options served first world
      obtain ⟨replies, after, ran, length, replied⟩ :=
        ih (served ++ [first]) middle
      refine ⟨((fresh options first).1,
        countsAfter options (served ++ [first])) :: replies, after, ?_, ?_, ?_⟩
      · rw [Session.serveAll, Run.bind_ok answered]
        exact Run.bind_ok ran
      · simp [length]
      · intro before request behind split
        cases before with
        | nil =>
            obtain ⟨rfl, rfl⟩ := List.cons.inj split
            simp
        | cons head before =>
            obtain ⟨rfl, rfl⟩ := List.cons.inj split
            have later := replied before request behind rfl
            simpa using later

theorem renderForest_append (options : Options) (first second : Forest) :
    (renderForest options (first ++ second)).output =
        (renderForest options first).output ++
          (renderForest options second).output ∧
      (renderForest options (first ++ second)).counts =
        (renderForest options first).counts +
          (renderForest options second).counts := by
  induction first with
  | nil =>
      rw [List.nil_append, renderForest_nil]
      exact ⟨rfl, (zero_add _).symm⟩
  | cons declaration first ih =>
      rw [List.cons_append, renderForest_cons, renderForest_cons]
      simp only [ih.1, ih.2]
      exact ⟨(List.append_assoc _ _ _).symm, (add_assoc _ _ _).symm⟩

/-- The past of a renderer does not show in its answers, and in its counts only
as far back as the last forest: in any sequence of requests, each is answered
as by a renderer that serves it alone, and the counts are then the sum of what
such renderers count.  A forest in two pieces has the blocks and the counts of
both. -/
theorem renderer_history (options : Options) :
    (∃ alone : Request → Answer × Counts,
      (∀ request world, ∃ after,
        Session.serve ⟨options, {}⟩ request world =
          .ok ((alone request).1, ⟨options, (alone request).2⟩) after) ∧
      ∀ before request behind world, ∃ replies after,
        Session.serveAll ⟨options, {}⟩ (before ++ request :: behind) world =
            .ok replies after ∧
          replies.length = (before ++ request :: behind).length ∧
            replies[before.length]? = some ((alone request).1,
              ((sinceForest (before ++ [request])).map
                fun other => (alone other).2).sum)) ∧
    ∀ counts first second world,
      ∃ firstBlocks secondBlocks firstCounts secondCounts,
        (∃ after, Session.renderForest ⟨options, counts⟩ first world =
          .ok (firstBlocks, ⟨options, firstCounts⟩) after) ∧
        (∃ after, Session.renderForest ⟨options, counts⟩ second world =
          .ok (secondBlocks, ⟨options, secondCounts⟩) after) ∧
        ∃ after, Session.renderForest ⟨options, counts⟩ (first ++ second) world =
          .ok (firstBlocks ++ secondBlocks,
            ⟨options, firstCounts + secondCounts⟩) after := by
  refine ⟨⟨fresh options, ?_, ?_⟩, ?_⟩
  · intro request world
    obtain ⟨after, ran⟩ := serve_run options [] request world
    have single : countsAfter options ([] ++ [request]) =
        (fresh options request).2 := List.sum_singleton
    rw [single] at ran
    exact ⟨after, ran⟩
  · intro before request behind world
    obtain ⟨replies, after, ran, length, replied⟩ :=
      serveAll_run options [] (before ++ request :: behind) world
    exact ⟨replies, after, ran, length, replied before request behind rfl⟩
  · intro counts first second world
    obtain ⟨output, sums⟩ := renderForest_append options first second
    have whole := Session.renderForest_run ⟨options, counts⟩ (first ++ second) world
    rw [output, sums] at whole
    exact ⟨_, _, _, _, ⟨_, Session.renderForest_run _ first world⟩,
      ⟨_, Session.renderForest_run _ second world⟩, ⟨_, whole⟩⟩

end Render

end SwiftInterface
