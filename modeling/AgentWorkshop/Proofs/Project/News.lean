import AgentWorkshop.Proofs.Console.Notice
import AgentWorkshop.Proofs.Project.Update
import Mathlib

/-!
# The tags in the news of a release

The news of another release are two sentences in a style each, and the words in them are not
escaped: the version that the index names, and the distribution. So a sentence has its own two
tags and no others exactly if no tag of the words is live and the backslashes at their end leave
the closing tag alone (`ownTags_sentence_iff`).
-/

namespace AgentWorkshop

namespace Release

open Markup

variable {front style lead words rest line current distribution version : Text}

/-- The line has exactly two live tags: the one that starts the style, after `front`, and the one
that ends it, before `rest`. -/
def OwnTags (front style rest line : Text) : Prop :=
  ∃ inner n, line = front ++ ('[' : CodePoint) :: style ++ (']' : CodePoint) :: inner ∧
    liveFinds line = [(⟨0, style⟩, inner), (⟨n, ('/' : CodePoint) :: style⟩, rest)]

/-- A sentence in a style. Its words stand as they are before the tag that ends the style. -/
def sentence (front style lead words rest : Text) : Text :=
  front ++ ('[' : CodePoint) :: style ++ (']' : CodePoint) :: (lead ++ (words ++
    (('[' : CodePoint) :: ('/' : CodePoint) :: style ++ (']' : CodePoint) :: rest)))

/-- **The live tags of a sentence**: its first, those of the words, and its last unless the
backslashes before it are odd in number. -/
theorem liveFinds_sentence (hfront : Plain front) (hstart : style.head?.any isTagStart = true)
    (hstyle : Plain style) (hlead : Plain lead) (hrest : Plain rest) (words : Text) :
    ∃ inner, sentence front style lead words rest =
        front ++ ('[' : CodePoint) :: style ++ (']' : CodePoint) :: inner ∧
      liveFinds (sentence front style lead words rest) = (⟨0, style⟩, inner) ::
        ((liveFinds words).map (before
            (('[' : CodePoint) :: ('/' : CodePoint) :: style ++ (']' : CodePoint) :: rest)) ++
          if endRun words % 2 = 1 then []
          else [(⟨endRun words, ('/' : CodePoint) :: style⟩, rest)]) := by
  rcases style with _ | ⟨c, word⟩
  · cases hstart
  have hword : Plain word := fun d hd => hstyle d (List.mem_cons_of_mem _ hd)
  refine ⟨_, rfl, ?_⟩
  rw [sentence, List.append_assoc, liveFinds_plain_append hfront]
  refine (liveFinds_tag (n := 0) rfl hstart hword _).trans (congrArg (_ :: ·) ?_)
  rw [liveFinds_plain_append hlead, liveFinds_append rfl rfl, liveFinds_ending hstyle,
    liveFinds_of_plain hrest]

/-- **A sentence has its own tags alone** exactly if none of its words is live and they do not end
in an odd number of backslashes. -/
theorem ownTags_sentence_iff (hfront : Plain front) (hstart : style.head?.any isTagStart = true)
    (hstyle : Plain style) (hlead : Plain lead) (hrest : Plain rest) (words : Text) :
    OwnTags front style rest (sentence front style lead words rest) ↔
      live words = [] ∧ endRun words % 2 = 0 := by
  obtain ⟨inner, hline, hlive⟩ := liveFinds_sentence hfront hstart hstyle hlead hrest words
  have hnone : live words = [] ↔ liveFinds words = [] := by
    rw [live_eq, List.map_eq_nil_iff]
  rw [hnone]
  constructor
  · rintro ⟨inner', n, -, hown⟩
    rw [hlive] at hown
    obtain ⟨-, htail⟩ := List.cons.inj hown
    by_cases hodd : endRun words % 2 = 1
    · -- Then a tag of the words would have to stand where the last one does.
      rw [if_pos hodd, List.append_nil, List.map_eq_singleton_iff] at htail
      obtain ⟨found, -, hfound⟩ := htail
      have hlength := congrArg List.length (Prod.mk.inj hfound).2
      simp at hlength
      omega
    · rw [if_neg hodd] at htail
      have hlength := congrArg List.length htail
      simp only [List.length_append, List.length_map, List.length_singleton] at hlength
      exact ⟨List.eq_nil_of_length_eq_zero (by omega), by omega⟩
  · rintro ⟨hwords, heven⟩
    rw [hwords, if_neg (by omega)] at hlive
    exact ⟨inner, _, hline, hlive⟩

/-! ## The two sentences -/

/-- The sentence that names the version. -/
def newVersion (version : Text) : Text :=
  sentence (text "\n") (text "yellow") (text "New version available! 1.0.0 -> ") version []

/-- The sentence that says how to get it. -/
def howToUpdate (distribution : Text) : Text :=
  sentence [] (text "cyan") (text "Run: pip install --upgrade ") (distribution ++ text " to update")
    (text "\n")

theorem news_of_ne (h : version ≠ present) : news present distribution version =
    [.line (newVersion version), .line (howToUpdate distribution)] := by
  rw [news, if_neg h]
  simp only [newVersion, howToUpdate, sentence, List.append_assoc]
  rfl

theorem ownTags_newVersion_iff (version : Text) :
    OwnTags (text "\n") (text "yellow") [] (newVersion version) ↔
      live version = [] ∧ endRun version % 2 = 0 :=
  ownTags_sentence_iff (by decide) (by decide) (by decide) (by decide) (by decide) version

/-- The words after the distribution keep it away from the closing tag. -/
theorem ownTags_howToUpdate_iff (distribution : Text) :
    OwnTags [] (text "cyan") (text "\n") (howToUpdate distribution) ↔ live distribution = [] := by
  have hend : endRun (distribution ++ text " to update") = 0 :=
    (endRun_append_cons (by decide) distribution (text "to update")).trans (by decide)
  have hlive : live (distribution ++ text " to update") = live distribution := by
    have hwords (n : Nat) : liveFinds (backslashes n ++ text " to update") = [] := by
      have hblank : bracketed? (text " to update") = none := bracketed?_of_ne (by decide)
      refine (liveFinds_of_not_bracketed (by decide) hblank n).trans ?_
      exact liveFinds_of_plain (t := text "to update") (by decide)
    rw [live_eq, liveFinds_append (by decide) (by decide), hwords, List.append_nil, List.map_map,
      live_eq]
    rfl
  rw [howToUpdate, ownTags_sentence_iff (by decide) (by decide) (by decide) (by decide) (by decide),
    hend, hlive]
  simp

section
variable {body : Bytes} {document : Json}

/-- Told of another version, the look shows the two sentences after its request. -/
theorem check_of_version (w : Workshop) (hurl : addressFault? (address distribution) = none)
    (hread : Json.readDocument body = .ok document) (hversion : versionOf document = some version)
    (hother : version ≠ present) :
    ∃ told, check (.document 200 body) present distribution w = .ok told
      { w with shown := w.shown ++ [.client patience, .fetch (address distribution),
        .line (newVersion version), .line (howToUpdate distribution)] } := by
  have hin : versionIn (.document 200 body) = .ok (some version) := by
    rw [versionIn, if_neg (by decide), hread]
    exact congrArg Except.ok hversion
  have htold : told? (.document 200 body) = some version := by
    rw [told?, hin]
    rfl
  obtain ⟨told, hcheck⟩ := check_apply (w := w) hurl present hin
  rw [notice, htold, Option.map_some, Option.getD_some, news_of_ne hother] at hcheck
  exact ⟨told, hcheck⟩

end

/-- What the index knows about a version. -/
def index (version : String) : Json :=
  .object [(text "info", .object [(text "version", .string (text version))])]

/-- The body of an answer that says so. -/
def naming (version : String) : Bytes :=
  (index version).print.flatMap Utf8.encodePoint

end Release

end AgentWorkshop
