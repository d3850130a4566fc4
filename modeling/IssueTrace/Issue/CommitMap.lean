import IssueTrace.Issue.Pattern
import IssueTrace.NameSet
import IssueTrace.Text.Blank

/-!
# Commits by issue

Which commits refer to each issue. The issues stand in ascending order, and the commits of an issue
in the order in which they were entered. The written form has a line for each issue: its number and
the ids of its commits, separated by spaces.
-/

namespace IssueTrace

/-- The commits linked to each issue. -/
structure IssueMap where
  entries : List (String × List CommitId)
  ascending : (entries.map Prod.fst).Pairwise (· < ·)

namespace IssueMap

/-- Enters a commit in an ascending list of issues. -/
def place (issue : String) (id : CommitId) :
    List (String × List CommitId) → List (String × List CommitId)
  | [] => [(issue, [id])]
  | (key, ids) :: rest =>
      if issue < key then (issue, [id]) :: (key, ids) :: rest
      else if key < issue then (key, ids) :: place issue id rest
      else (key, ids ++ [id]) :: rest

theorem keys_place (issue : String) (id : CommitId) (entries : List (String × List CommitId)) :
    (place issue id entries).map Prod.fst = NameSet.place issue (entries.map Prod.fst) := by
  induction entries with
  | nil => simp [place, NameSet.place]
  | cons e rest ih =>
      obtain ⟨key, ids⟩ := e
      simp only [place, NameSet.place, List.map_cons]
      split
      · simp
      · split
        · simp [ih]
        · simp

theorem ascending_nil :
    (([] : List (String × List CommitId)).map Prod.fst).Pairwise (· < ·) :=
  List.Pairwise.nil

def empty : IssueMap := ⟨[], ascending_nil⟩

instance : EmptyCollection IssueMap := ⟨empty⟩

instance : Inhabited IssueMap := ⟨empty⟩

/-- Links a commit to an issue, after those linked before. -/
def insert (m : IssueMap) (issue : String) (id : CommitId) : IssueMap where
  entries := place issue id m.entries
  ascending := by
    rw [keys_place]
    exact NameSet.place_ascending issue m.ascending

/-- Links each commit to the issue that its message refers to. -/
def ofCommits (commits : List Commit) (pattern : IssuePattern) : IssueMap :=
  commits.foldl
    (fun m c =>
      match pattern.issueId? c.message with
      | some issue => m.insert issue c.id
      | none => m)
    ∅

def size (m : IssueMap) : Nat := m.entries.length

def isEmpty (m : IssueMap) : Bool := m.entries.isEmpty

def commits (m : IssueMap) (issue : String) : List CommitId := (m.entries.lookup issue).getD []

/-- The line of an issue. -/
def renderEntry (e : String × List CommitId) : String :=
  e.1 ++ String.join (e.2.map fun id => " " ++ id.hex) ++ "\n"

/-- The written form. -/
def render (m : IssueMap) : String := String.join (m.entries.map renderEntry)

/-- Enters the words that follow an issue. A word that is no id is left out with a warning. -/
def readIds (issue : String) (m : IssueMap × List String) (words : List (List Char)) :
    IssueMap × List String :=
  words.foldl
    (fun (m, warnings) word =>
      let text := String.ofList word
      match CommitId.ofText? text with
      | some id => (m.insert issue id, warnings)
      | none =>
          (m, warnings ++ ["Skipping invalid commit id " ++ Text.quoted text ++ " for issue " ++ issue]))
    m

/-- Reads a line of the written form. A blank line holds nothing. -/
def readLine (m : IssueMap × List String) (line : List Char) : IssueMap × List String :=
  match Text.words line with
  | [] => m
  | issue :: ids => readIds (String.ofList issue) m ids

/-- Reads the written form, and gives a warning for each word that is no id. -/
def read (text : String) : IssueMap × List String :=
  (Text.lines text.toList).foldl readLine (∅, [])

end IssueMap

end IssueTrace
