import DriverKit.Proofs.Discovery.Ending

/-!
# Searches one after another

A locator is searched with again and again, while everything around it changes. A search empties
the list of directories that the last one has read, and then goes through the candidates one by one:
it passes over those whose root it has seen, and notes a version directory before it is listed, so
that the directory stays noted if that fails. Nothing of an earlier search is left in a later one,
however either of them ends.
-/

namespace DriverKit

namespace Discovery

/-! ## A search under way -/

/-- A search under way. Once it has failed, it goes no further. -/
structure Course where
  /-- The standard forms of the roots that have been looked at. -/
  seen : List Path.Standard
  attempted : List Candidate
  consulted : List Path
  found : Traced (List Installation)

namespace Course

/-- A search that has yet to look at its first candidate, with the directories noted so far. -/
def ofConsulted (consulted : List Path) : Course := ⟨[], [], consulted, return []⟩

/-- Adds what there is at a root, and notes the root. -/
def add (disk : Disk) (course : Course) (candidate : Candidate) : Course :=
  let probed := probe disk candidate
  { seen := candidate.path.standard disk.workingDirectory :: course.seen
    attempted := course.attempted ++ [candidate]
    consulted := course.consulted ++ probed.consulted
    found := do return (← course.found) ++ (← probed.found) }

/-- Looks at one more candidate. -/
def visit (disk : Disk) (course : Course) (candidate : Candidate) : Course :=
  match course.found.outcome with
  | .error _ => course
  | .ok _ =>
      if course.seen.contains (candidate.path.standard disk.workingDirectory) then course
      else course.add disk candidate

/-- The candidates whose roots a search has yet to look at. -/
def unseen (disk : Disk) (course : Course) (candidates : List Candidate) : List Candidate :=
  distinctRoots disk <| candidates.filter fun candidate =>
    !course.seen.contains (candidate.path.standard disk.workingDirectory)

variable {disk : Disk} {course : Course}

theorem unseen_cons_of_seen {candidate : Candidate} {rest : List Candidate}
    (seen : course.seen.contains (candidate.path.standard disk.workingDirectory) = true) :
    course.unseen disk (candidate :: rest) = course.unseen disk rest := by
  rw [unseen, List.filter_cons, seen, Bool.not_true, if_neg (by decide), unseen]

theorem unseen_cons_of_new {candidate : Candidate} {rest : List Candidate}
    (new : course.seen.contains (candidate.path.standard disk.workingDirectory) = false) :
    course.unseen disk (candidate :: rest) =
      candidate :: (course.add disk candidate).unseen disk rest := by
  rw [unseen, List.filter_cons, new, Bool.not_false, if_pos rfl, distinctRoots, distinctBy,
    filter_distinctBy, List.filter_filter, unseen, add, distinctRoots]
  · congr 2
    refine List.filter_congr fun other _ => ?_
    rw [List.contains_cons, Bool.not_or, Bool.beq_comm]
  · intro item other same
    rw [beq_iff_eq.mp same]

theorem visit_of_failed {failure : Failure} (failed : course.found.outcome = .error failure)
    (candidate : Candidate) : course.visit disk candidate = course := by
  rw [visit, failed]

theorem visit_of_seen {installations : List Installation} {candidate : Candidate}
    (going : course.found.outcome = .ok installations)
    (seen : course.seen.contains (candidate.path.standard disk.workingDirectory) = true) :
    course.visit disk candidate = course := by
  simp only [visit, going, seen, if_true]

theorem visit_of_new {installations : List Installation} {candidate : Candidate}
    (going : course.found.outcome = .ok installations)
    (new : course.seen.contains (candidate.path.standard disk.workingDirectory) = false) :
    course.visit disk candidate = course.add disk candidate := by
  simp only [visit, going, new, Bool.false_eq_true, if_false]

theorem foldl_visit_of_failed {failure : Failure} (failed : course.found.outcome = .error failure)
    (candidates : List Candidate) : candidates.foldl (visit disk) course = course := by
  induction candidates with
  | nil => rfl
  | cons candidate rest inductionHypothesis =>
      rw [List.foldl_cons, visit_of_failed failed, inductionHypothesis]

/-- A search has come to an end after some candidates: what there is at the roots that it had not
seen is added to it, up to the first that refuses. -/
structure EndsAt (disk : Disk) (course : Course) (candidates : List Candidate) (after : Course) :
    Prop where
  consulted :
    after.consulted = course.consulted ++ (probeAll disk (course.unseen disk candidates)).consulted
  found :
    after.found
      = (do return (← course.found) ++ (← (probeAll disk (course.unseen disk candidates)).found))
  attempted : ∀ installations, after.found.outcome = .ok installations →
    after.attempted = course.attempted ++ course.unseen disk candidates

theorem EndsAt.add_failed {candidate : Candidate} {rest : List Candidate} {failure : Failure}
    {installations : List Installation} (going : course.found.outcome = .ok installations)
    (new : course.seen.contains (candidate.path.standard disk.workingDirectory) = false)
    (failed : (probe disk candidate).found.outcome = .error failure) :
    EndsAt disk course (candidate :: rest) (course.add disk candidate) := by
  have stops : probeAll disk (course.unseen disk (candidate :: rest)) = probe disk candidate := by
    rw [unseen_cons_of_new new]
    simp only [probeAll, failed]
  constructor
  · rw [stops, add]
  · rw [stops, add]
  · intro found isOk
    simp [add, going, failed] at isOk

theorem EndsAt.add_found {candidate : Candidate} {rest : List Candidate} {after : Course}
    {here : List Installation}
    (new : course.seen.contains (candidate.path.standard disk.workingDirectory) = false)
    (found : (probe disk candidate).found.outcome = .ok here)
    (ends : EndsAt disk (course.add disk candidate) rest after) :
    EndsAt disk course (candidate :: rest) after := by
  have split : course.unseen disk (candidate :: rest)
      = candidate :: (course.add disk candidate).unseen disk rest := unseen_cons_of_new new
  have goesOn : probeAll disk (course.unseen disk (candidate :: rest))
      = { found := do
            return (← (probe disk candidate).found)
              ++ (← (probeAll disk ((course.add disk candidate).unseen disk rest)).found)
          consulted :=
            (probe disk candidate).consulted
              ++ (probeAll disk ((course.add disk candidate).unseen disk rest)).consulted } := by
    rw [split]
    simp only [probeAll, found]
  constructor
  · rw [ends.consulted, goesOn]
    exact List.append_assoc _ _ _
  · have added : (course.add disk candidate).found
        = (do return (← course.found) ++ (← (probe disk candidate).found)) := rfl
    rw [ends.found, goesOn, added]
    simp only [bind_assoc, pure_bind, List.append_assoc]
  · intro installations isOk
    rw [ends.attempted installations isOk, split]
    exact List.append_assoc _ [candidate] _

theorem endsAt_foldl_visit (disk : Disk) :
    ∀ (candidates : List Candidate) {course : Course} {installations : List Installation},
      course.found.outcome = .ok installations →
        EndsAt disk course candidates (candidates.foldl (visit disk) course)
  | [], course, _, _ => by
      constructor <;> simp [unseen, distinctRoots, distinctBy, probeAll]
  | candidate :: rest, course, installations, going => by
      rw [List.foldl_cons]
      -- What is left for the rest is seen from the course after this candidate, not from this one.
      cases seen : course.seen.contains (candidate.path.standard disk.workingDirectory) with
      | true =>
          obtain ⟨consulted, found, attempted⟩ := endsAt_foldl_visit disk rest going
          rw [visit_of_seen going seen]
          constructor <;> rw [unseen_cons_of_seen seen] <;> assumption
      | false =>
          rw [visit_of_new going seen]
          cases probed : (probe disk candidate).found.outcome with
          | error failure =>
              have failed : (course.add disk candidate).found.outcome = .error failure := by
                simp [add, going, probed]
              rw [foldl_visit_of_failed failed]
              exact .add_failed going seen probed
          | ok here =>
              have goesOn : (course.add disk candidate).found.outcome
                  = .ok (installations ++ here) := by
                simp [add, going, probed]
              exact .add_found seen probed (endsAt_foldl_visit disk rest goesOn)

end Course

/-! ## What a search reads -/

theorem consulted_probe (disk : Disk) (candidate : Candidate) :
    (probe disk candidate).consulted = presentVersionRoots disk [candidate] := by
  unfold probe presentVersionRoots
  simp only [List.map_cons, List.map_nil]
  cases asked : disk.isDirectory (KitLayout.versionRoot candidate.path) with
  | error fault => simp [asked]
  | ok isThere => cases isThere <;> simp [asked]

theorem presentVersionRoots_cons (disk : Disk) (candidate : Candidate) (rest : List Candidate) :
    presentVersionRoots disk (candidate :: rest)
      = presentVersionRoots disk [candidate] ++ presentVersionRoots disk rest := by
  rw [presentVersionRoots, presentVersionRoots, presentVersionRoots, ← List.filter_append,
    ← List.map_append, List.singleton_append]

/-- A search that ends at a root has read up to this root, and its version directory if it is
there. -/
theorem consulted_probeAll_of_refused {disk : Disk} {refusing : Candidate} {failure : Failure}
    (refused : IsRefusedAt disk refusing failure) (after : List Candidate) :
    ∀ {before : List Candidate}, (∀ candidate ∈ before, CanBeSearched disk candidate) →
      (probeAll disk (before ++ refusing :: after)).consulted
        = presentVersionRoots disk (before ++ [refusing])
  | [], _ => by
      have ends := outcome_probe_of_refused refused
      simp only [List.nil_append, probeAll, ends, consulted_probe]
  | candidate :: rest, searchable => by
      have first := isFinished_probe (searchable candidate List.mem_cons_self)
      have others := consulted_probeAll_of_refused refused after fun other member =>
        searchable other (List.mem_cons_of_mem candidate member)
      simp only [List.cons_append, probeAll, first.found, others, consulted_probe]
      exact (presentVersionRoots_cons disk candidate _).symm

/-- How a search ends: what it returns, and what it has read. -/
inductive EndsWith (surroundings : Surroundings) (standard : List Path) :
    Except Failure (List Installation) → List Path → Prop where
  /-- There are no candidates to go through, since the store holds a value that cannot be used. -/
  | unchosen {failure : Failure}
      (failed : (Candidate.all surroundings.environment surroundings.store standard).outcome
        = .error failure) :
      EndsWith surroundings standard (.error failure) []
  | atRoot {all before after : List Candidate} {refusing : Candidate} {failure : Failure}
      (chosen : (Candidate.all surroundings.environment surroundings.store standard).outcome
        = .ok all)
      (split : distinctRoots surroundings.disk all = before ++ refusing :: after)
      (searchable : ∀ root ∈ before, CanBeSearched surroundings.disk root)
      (refused : IsRefusedAt surroundings.disk refusing failure) :
      EndsWith surroundings standard (.error failure)
        (presentVersionRoots surroundings.disk (before ++ [refusing]))
  | atEnd {all : List Candidate}
      (chosen : (Candidate.all surroundings.environment surroundings.store standard).outcome
        = .ok all)
      (searchable : ∀ root ∈ distinctRoots surroundings.disk all,
        CanBeSearched surroundings.disk root) :
      EndsWith surroundings standard
        (ranked (distinctRoots surroundings.disk all)
          (((distinctRoots surroundings.disk all).flatMap
            (readings surroundings.disk)).map Prod.snd)).outcome
        (presentVersionRoots surroundings.disk (distinctRoots surroundings.disk all))

end Discovery

/-! ## Searches of a locator -/

namespace Locator

open Discovery

/-- The beginning of a search, which finds out its candidates. -/
def begun (locator : Locator) (surroundings : Surroundings) : Traced (List Candidate) := do
  Traced.say .info .locator "Starting kit discovery"
  locator.candidates surroundings

/-- Searches step by step: the directories that were read are forgotten, and those that are read
are noted, candidate by candidate. -/
def searchThrough (locator : Locator) (surroundings : Surroundings) :
    Traced (List Installation) × Locator :=
  let locator := { locator with consulted := [] }
  let begun := locator.begun surroundings
  match begun.outcome with
  | .error failure => (⟨.error failure, begun.log⟩, locator)
  | .ok candidates =>
      let course :=
        candidates.foldl (Course.visit surroundings.disk) (.ofConsulted locator.consulted)
      (begun >>= fun _ => course.found >>= ranked course.attempted,
        { locator with consulted := course.consulted })

section

variable (locator : Locator) (surroundings : Surroundings)

theorem outcome_begun :
    (locator.begun surroundings).outcome = (locator.candidates surroundings).outcome := by
  simp only [begun, Traced.outcome_bind, Traced.outcome_say, ok_bind]

theorem roots_eq :
    roots surroundings.disk surroundings.environment surroundings.store locator.standard
      = distinctRoots surroundings.disk <$> locator.begun surroundings := by
  simp only [roots, begun, candidates, map_bind]

theorem searchThrough_of_error {failure : Failure}
    (failed : (locator.begun surroundings).outcome = .error failure) :
    locator.searchThrough surroundings
      = (⟨.error failure, (locator.begun surroundings).log⟩, { locator with consulted := [] }) := by
  have emptied : ({ locator with consulted := [] } : Locator).begun surroundings
      = locator.begun surroundings := rfl
  simp only [searchThrough, emptied, failed]

theorem searchThrough_of_ok {all : List Candidate}
    (done : (locator.begun surroundings).outcome = .ok all) :
    let course := all.foldl (Course.visit surroundings.disk) (.ofConsulted [])
    locator.searchThrough surroundings
      = (locator.begun surroundings >>= fun _ => course.found >>= ranked course.attempted,
          { locator with consulted := course.consulted }) := by
  have emptied : ({ locator with consulted := [] } : Locator).begun surroundings
      = locator.begun surroundings := rfl
  simp only [searchThrough, emptied, done]

theorem discover_of_error {failure : Failure}
    (failed : (locator.begun surroundings).outcome = .error failure) :
    locator.discover surroundings
      = (⟨.error failure, (locator.begun surroundings).log⟩, { locator with consulted := [] }) := by
  let chosen := roots surroundings.disk surroundings.environment surroundings.store locator.standard
  have chosenFailed : chosen = ⟨.error failure, (locator.begun surroundings).log⟩ :=
    (roots_eq locator surroundings).trans (Traced.bind_of_error failed _)
  have unfolded : locator.discover surroundings
      = (chosen >>= fun candidates =>
            (probeAll surroundings.disk (chosen.outcome.toOption.getD [])).found >>=
              ranked candidates,
          { locator with
            consulted :=
              (probeAll surroundings.disk (chosen.outcome.toOption.getD [])).consulted }) := rfl
  rw [unfolded, chosenFailed]
  rfl

theorem foldl_visit_eq_probeAll (disk : Disk) (all : List Candidate) :
    let course := all.foldl (Course.visit disk) (.ofConsulted [])
    let probed := probeAll disk (distinctRoots disk all)
    course.consulted = probed.consulted ∧
      course.found >>= ranked course.attempted =
        probed.found >>= ranked (distinctRoots disk all) := by
  intro course probed
  let start : Course := .ofConsulted []
  have unseen : start.unseen disk all = distinctRoots disk all := by
    simp [start, Course.unseen, Course.ofConsulted]
  obtain ⟨consulted, found, attempted⟩ :=
    Course.endsAt_foldl_visit disk all (show start.found.outcome = .ok [] from rfl)
  rw [unseen] at consulted found attempted
  have sameFound : course.found = probed.found := by
    rw [show course.found = _ from found]
    simp [start, Course.ofConsulted, probed]
  refine ⟨consulted, ?_⟩
  cases isOutcome : course.found.outcome with
  | error failure =>
      rw [Traced.bind_of_error isOutcome, ← sameFound, Traced.bind_of_error isOutcome]
  | ok installations =>
      rw [show course.attempted = distinctRoots disk all from attempted _ isOutcome, sameFound]

theorem searchThrough_eq_discover :
    locator.searchThrough surroundings = locator.discover surroundings := by
  cases isOutcome : (locator.begun surroundings).outcome with
  | error failure =>
      rw [searchThrough_of_error locator surroundings isOutcome,
        discover_of_error locator surroundings isOutcome]
  | ok all =>
      have chosen : (locator.candidates surroundings).outcome = .ok all :=
        (outcome_begun locator surroundings).symm.trans isOutcome
      obtain ⟨consulted, found⟩ := foldl_visit_eq_probeAll surroundings.disk all
      rw [searchThrough_of_ok locator surroundings isOutcome, discover,
        discover_of_candidates chosen, consulted]
      congr 1
      show _ = roots _ _ _ _ >>= fun candidates =>
        (probeAll surroundings.disk (distinctRoots surroundings.disk all)).found >>=
          ranked candidates
      rw [roots_eq, bind_map_left]
      exact Traced.bind_congr_of_ok isOutcome found

/-! ## Nothing is left over -/

theorem endsWith_discover :
    EndsWith surroundings locator.standard (locator.discover surroundings).1.outcome
      (locator.discover surroundings).2.consulted := by
  cases chosen : (locator.candidates surroundings).outcome with
  | error failure =>
      rw [discover_of_error locator surroundings
        ((outcome_begun locator surroundings).trans chosen)]
      exact .unchosen chosen
  | ok all =>
      have discovered := @discover_of_candidates surroundings.disk _ _ _ _ chosen
      rcases canBeSearched_or_exists_first surroundings.disk
        (distinctRoots surroundings.disk all) with
        searchable | ⟨before, refusing, after, failure, split, searched, refused⟩
      · have finished := isFinished_probeAll searchable
        simp only [discover, discovered, Traced.outcome_bind,
          outcome_roots surroundings.disk chosen, ok_bind, finished.found, finished.consulted]
        exact .atEnd chosen searchable
      · have outcome := outcome_discover_of_refused chosen split searched refused
        have consulted := consulted_probeAll_of_refused refused after searched
        rw [← split] at consulted
        simp only [discover, outcome]
        rw [discovered, consulted]
        exact .atRoot chosen split searched refused

end

/-- Two locators with the same standard locations search alike, whatever they have read before. -/
theorem discover_congr {locator other : Locator} (same : locator.standard = other.standard)
    (surroundings : Surroundings) :
    locator.discover surroundings = other.discover surroundings := by
  obtain ⟨standard, consulted⟩ := locator
  simp only at same
  subst same
  rfl

theorem discoverEach_eq :
    ∀ (before : List Surroundings) (locator : Locator),
      (locator.discoverEach before).2.standard = locator.standard ∧
        (locator.discoverEach before).1
          = before.map fun surroundings => (locator.discover surroundings).1
  | [], _ => ⟨rfl, rfl⟩
  | surroundings :: rest, locator => by
      obtain ⟨standard, found⟩ := discoverEach_eq rest (locator.discover surroundings).2
      refine ⟨standard, ?_⟩
      rw [List.map_cons]
      exact congrArg ((locator.discover surroundings).1 :: ·) found

/-- After any searches, in surroundings that change in between, a locator finds and reads what a new
one does: all that it searches step by step is what there is now. What each search of the sequence
has found is what a new locator finds. -/
theorem searches_as_new (standard : List Path) (before : List Surroundings) (now : Surroundings) :
    let made := ofStandard standard
    let used := (made.discoverEach before).2
    used.searchThrough now = made.discover now ∧ used.discover now = made.discover now ∧
      EndsWith now standard (used.discover now).1.outcome (used.discover now).2.consulted ∧
        (made.discoverEach (before ++ [now])).1
          = (before ++ [now]).map fun surroundings => (made.discover surroundings).1 := by
  intro made used
  have sameStandard : used.standard = made.standard := (discoverEach_eq before made).1
  have asNew : used.discover now = made.discover now := discover_congr sameStandard now
  refine ⟨?_, asNew, ?_, (discoverEach_eq _ made).2⟩
  · rw [searchThrough_eq_discover, asNew]
  · rw [asNew]
    exact endsWith_discover made now

/-- A kit is found, and is then gone: what was read to find it is not among what is read in vain. -/
example :
    let place (names : List String) : Place := ⟨names⟩
    let kit : Disk :=
      { Disk.empty with
        entries :=
          [(place ["a"], .directory), (place ["a", "Lib"], .directory),
            (place ["a", "Lib", "10.0"], .directory)] }
    let locator := ofStandard [Path.ofText "a"]
    (locator.discover ⟨kit, [], .absent⟩).2.consulted = [Path.ofText "a/Lib"] ∧
      (locator.discoverEach [⟨kit, [], .absent⟩, ⟨Disk.empty, [], .absent⟩]).2.consulted = [] := by
  decide +kernel

end Locator

end DriverKit
