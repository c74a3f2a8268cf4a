import ComposeDeploy.Engine.Client
import ComposeDeploy.Proofs.Text.Pieces
import ComposeDeploy.Proofs.Text.Trimming

/-!
The images that texts name, and their canonical names.

Apart from the blanks around it, a text names one image (`ImageName.Names`) or
lacks a part of the name and names none (`ImageName.NamesNone`). There is no
third case (`ImageName.names_or_namesNone`), and reading follows the two
(`ImageName.ofText_eq_ok_iff`, `ImageName.ofText_eq_error_iff`). The canonical name
is the text itself or the text with the implied tag after it, so it is read as the
image with its tag (`ImageName.Names.display`) and is the canonical name of that
one too (`ImageName.ofText_isStable`).
-/

namespace ComposeDeploy.ImageName

/-! ### What texts name -/

/-- A tag holds no at sign, and neither another colon nor a slash comes after the
colon before it. -/
def MayBeTag (cs : List Char) : Prop :=
  ∀ c ∈ cs, c ≠ '@' ∧ c ≠ ':' ∧ c ≠ '/'

/-- The image that a text without blanks around it names. -/
inductive Names : List Char → ImageName → Prop where
  /-- The digest follows the first at sign. -/
  | digest {repository digest : List Char} : repository ≠ [] → '@' ∉ repository → digest ≠ [] →
      Names (repository ++ '@' :: digest)
        ⟨String.ofList repository, none, some (String.ofList digest)⟩
  /-- The tag follows the last colon. -/
  | tag {repository tag : List Char} : repository ≠ [] → '@' ∉ repository → tag ≠ [] →
      MayBeTag tag →
      Names (repository ++ ':' :: tag) ⟨String.ofList repository, some (String.ofList tag), none⟩
  /-- Every colon has a slash behind it and belongs to the port of a registry. -/
  | plain {repository : List Char} : repository ≠ [] → '@' ∉ repository →
      (∀ registry rest, repository = registry ++ ':' :: rest → '/' ∈ rest) →
      Names repository ⟨String.ofList repository, none, none⟩

/-- The texts without blanks around them that name no image. -/
inductive NamesNone : List Char → Prop where
  | empty : NamesNone []
  | digestAlone (digest : List Char) : NamesNone ('@' :: digest)
  | digestMissing {repository : List Char} : '@' ∉ repository → NamesNone (repository ++ ['@'])
  | tagAlone {tag : List Char} : MayBeTag tag → NamesNone (':' :: tag)
  | tagMissing {repository : List Char} : '@' ∉ repository → NamesNone (repository ++ [':'])

/-! ### Cutting -/

theorem splitTag_eq_some_iff {cs repository tag : List Char} :
    splitTag cs = some (repository, tag) ↔
      cs = repository ++ ':' :: tag ∧ ':' ∉ tag ∧ '/' ∉ tag := by
  rw [← and_assoc, ← Text.splitLast_eq_some_iff, splitTag]
  cases Text.splitLast ':' cs with
  | none => exact ⟨nofun, fun ⟨cut, _⟩ => by cases cut⟩
  | some parts =>
    obtain ⟨before, after⟩ := parts
    show (if '/' ∈ after then none else some (before, after)) = some (repository, tag) ↔ _
    by_cases port : '/' ∈ after
    · rw [if_pos port]
      constructor
      · nofun
      · rintro ⟨cut, slashless⟩
        cases cut
        exact absurd port slashless
    · rw [if_neg port]
      constructor
      · intro cut
        cases cut
        exact ⟨rfl, port⟩
      · exact And.left

/-- There is no tag if every colon has a slash behind it. -/
theorem splitTag_eq_none_iff {cs : List Char} :
    splitTag cs = none ↔ ∀ registry rest, cs = registry ++ ':' :: rest → '/' ∈ rest := by
  constructor
  · rintro untagged registry rest rfl
    by_contra slashless
    cases cut : Text.splitLast ':' rest with
    | none =>
      have colonless := Text.splitLast_eq_none_iff.mp cut
      rw [splitTag_eq_some_iff.mpr ⟨rfl, colonless, slashless⟩] at untagged
      cases untagged
    | some parts =>
      -- What follows the last colon of the rest follows that of the whole text.
      obtain ⟨before, after⟩ := parts
      obtain ⟨rfl, colonless⟩ := Text.splitLast_eq_some_iff.mp cut
      have last : '/' ∉ after := fun member => slashless (by simp [member])
      have tagged : splitTag (registry ++ ':' :: (before ++ ':' :: after)) =
          some (registry ++ ':' :: before, after) :=
        splitTag_eq_some_iff.mpr ⟨by simp, colonless, last⟩
      rw [tagged] at untagged
      cases untagged
  · intro ports
    cases cut : splitTag cs with
    | none => rfl
    | some parts =>
      obtain ⟨joined, _, slashless⟩ := splitTag_eq_some_iff.mp cut
      exact absurd (ports _ _ joined) slashless

namespace MayBeTag

variable {repository tag : List Char} (isTag : MayBeTag tag)
include isTag

theorem splitTag_append : splitTag (repository ++ ':' :: tag) = some (repository, tag) :=
  splitTag_eq_some_iff.mpr
    ⟨rfl, fun member => (isTag _ member).2.1 rfl, fun member => (isTag _ member).2.2 rfl⟩

theorem splitFirst_append (unmarked : '@' ∉ repository) :
    Text.splitFirst '@' (repository ++ ':' :: tag) = none := by
  rw [Text.splitFirst_eq_none_iff]
  intro member
  rcases List.mem_append.mp member with before | after
  · exact unmarked before
  · rcases List.mem_cons.mp after with colon | inTag
    · cases colon
    · exact (isTag _ inTag).1 rfl

end MayBeTag

/-! ### Reading -/

/-- Every text names an image or none. -/
theorem names_or_namesNone (cs : List Char) : (∃ image, Names cs image) ∨ NamesNone cs := by
  cases marked : Text.splitFirst '@' cs with
  | some parts =>
    obtain ⟨repository, digest⟩ := parts
    obtain ⟨rfl, unmarked⟩ := Text.splitFirst_eq_some_iff.mp marked
    by_cases alone : repository = []
    · subst alone
      exact .inr (.digestAlone digest)
    · by_cases missing : digest = []
      · subst missing
        exact .inr (.digestMissing unmarked)
      · exact .inl ⟨_, .digest alone unmarked missing⟩
  | none =>
    have unmarked := Text.splitFirst_eq_none_iff.mp marked
    cases tagged : splitTag cs with
    | some parts =>
      obtain ⟨repository, tag⟩ := parts
      obtain ⟨rfl, colonless, slashless⟩ := splitTag_eq_some_iff.mp tagged
      rw [List.mem_append, List.mem_cons, not_or, not_or] at unmarked
      obtain ⟨unmarkedRepository, _, unmarkedTag⟩ := unmarked
      have isTag : MayBeTag tag := fun c member =>
        ⟨fun same => unmarkedTag (same ▸ member), fun same => colonless (same ▸ member),
          fun same => slashless (same ▸ member)⟩
      by_cases alone : repository = []
      · subst alone
        exact .inr (.tagAlone isTag)
      · by_cases missing : tag = []
        · subst missing
          exact .inr (.tagMissing unmarkedRepository)
        · exact .inl ⟨_, .tag alone unmarkedRepository missing isTag⟩
    | none =>
      by_cases empty : cs = []
      · subst empty
        exact .inr .empty
      · exact .inl ⟨_, .plain empty unmarked (splitTag_eq_none_iff.mp tagged)⟩

section Reading

variable {text : String} {cs : List Char} {image : ImageName}

/-- What a text names is read. -/
theorem ofText_of_names (trimmed : (Text.trim text).toList = cs) (names : Names cs image) :
    ofText text = .ok image := by
  have whole : Text.trim text = String.ofList cs := by rw [← trimmed, String.ofList_toList]
  unfold ofText
  cases names with
  | digest nonempty unmarked given =>
    simp [whole, Text.splitFirst_append unmarked, nonempty, given]
  | tag nonempty unmarked given isTag =>
    simp [whole, isTag.splitFirst_append unmarked, isTag.splitTag_append, nonempty, given]
  | plain nonempty unmarked ports =>
    have unsplit := Text.splitFirst_eq_none_iff.mpr unmarked
    have untagged := splitTag_eq_none_iff.mpr ports
    simp [whole, unsplit, untagged, nonempty]

/-- What names no image is refused. -/
theorem ofText_of_namesNone (trimmed : (Text.trim text).toList = cs) (namesNone : NamesNone cs) :
    ofText text = .error (.invalidImageName (Text.trim text)) := by
  have whole : Text.trim text = String.ofList cs := by rw [← trimmed, String.ofList_toList]
  unfold ofText
  rw [whole]
  cases namesNone with
  | empty => simp
  | digestAlone digest =>
    have marked := @Text.splitFirst_append '@' [] List.not_mem_nil digest
    rw [List.nil_append] at marked
    simp [marked]
  | digestMissing unmarked => simp [Text.splitFirst_append unmarked]
  | tagAlone isTag =>
    have unsplit := @MayBeTag.splitFirst_append [] _ isTag List.not_mem_nil
    have tagged := @MayBeTag.splitTag_append [] _ isTag
    rw [List.nil_append] at unsplit tagged
    simp [unsplit, tagged]
  | tagMissing unmarked =>
    have isTag : MayBeTag [] := nofun
    simp [isTag.splitFirst_append unmarked, isTag.splitTag_append]

theorem ofText_eq_ok_iff : ofText text = .ok image ↔ Names (Text.trim text).toList image := by
  constructor
  · intro read
    rcases names_or_namesNone (Text.trim text).toList with ⟨named, names⟩ | namesNone
    · rw [ofText_of_names rfl names] at read
      cases read
      exact names
    · rw [ofText_of_namesNone rfl namesNone] at read
      cases read
  · exact ofText_of_names rfl

theorem ofText_eq_error_iff {e : Error} : ofText text = .error e ↔
    e = .invalidImageName (Text.trim text) ∧ NamesNone (Text.trim text).toList := by
  constructor
  · intro refused
    rcases names_or_namesNone (Text.trim text).toList with ⟨named, names⟩ | namesNone
    · rw [ofText_of_names rfl names] at refused
      cases refused
    · rw [ofText_of_namesNone rfl namesNone] at refused
      cases refused
      exact ⟨rfl, namesNone⟩
  · rintro ⟨rfl, namesNone⟩
    exact ofText_of_namesNone rfl namesNone

end Reading

/-! ### The image with its tag -/

/-- The image with the implied tag, if it has neither a tag nor a digest. -/
def tagged (image : ImageName) : ImageName :=
  match image.digest with
  | some _ => image
  | none => { image with tag := some image.selector }

@[simp] theorem repository_tagged (image : ImageName) :
    image.tagged.repository = image.repository := by
  unfold tagged
  split <;> rfl

@[simp] theorem digest_tagged (image : ImageName) : image.tagged.digest = image.digest := by
  unfold tagged
  split <;> rfl

@[simp] theorem selector_tagged (image : ImageName) : image.tagged.selector = image.selector := by
  obtain ⟨repository, tag, _ | digest⟩ := image
  · rfl
  · rfl

@[simp] theorem display_tagged (image : ImageName) : image.tagged.display = image.display := by
  simp [display]

/-! ### Canonical names -/

theorem display_eq (image : ImageName) : image.display =
    image.repository ++ (if image.digest.isSome then "@" else ":") ++ image.selector := by
  obtain ⟨repository, tag, _ | digest⟩ := image
  · rfl
  · rfl

theorem mayBeTag_impliedTag : MayBeTag impliedTag.toList := by
  simp [MayBeTag, impliedTag]

namespace Names

variable {text : String} {cs : List Char} {image : ImageName}

/-- The canonical name names the image with its tag. -/
theorem display (names : Names cs image) : Names image.display.toList image.tagged := by
  cases names with
  | digest nonempty unmarked given =>
    simpa [ImageName.display, tagged] using Names.digest nonempty unmarked given
  | tag nonempty unmarked given isTag =>
    simpa [ImageName.display, tagged, selector] using Names.tag nonempty unmarked given isTag
  | plain nonempty unmarked =>
    have implied := Names.tag nonempty unmarked (by decide) mayBeTag_impliedTag
    simpa [ImageName.display, tagged, selector] using implied

theorem ne_nil (names : Names cs image) : cs ≠ [] := by
  cases names with
  | digest => simp
  | tag => simp
  | plain nonempty => exact nonempty

/-- A canonical name begins like any other, and may have the implied tag after it. -/
theorem exists_display_eq (names : Names cs image) :
    ∃ added, image.display.toList = cs ++ added ∧
      (added = [] ∨ added = ':' :: impliedTag.toList) := by
  cases names with
  | digest => exact ⟨[], by simp [ImageName.display], .inl rfl⟩
  | tag => exact ⟨[], by simp [ImageName.display, selector], .inl rfl⟩
  | plain => exact ⟨_, by simp [ImageName.display, selector], .inr rfl⟩

/-- There are no blanks around a canonical name. -/
theorem trim_display (names : Names (Text.trim text).toList image) :
    Text.trim image.display = image.display := by
  obtain ⟨added, written, kinds⟩ := names.exists_display_eq
  apply Text.trim_of_unblank
  · intro c first
    rw [written, List.head?_append_of_ne_nil _ names.ne_nil] at first
    exact Text.not_isBlank_head_trim first
  · intro c last
    rw [written] at last
    rcases kinds with rfl | rfl
    · rw [List.append_nil] at last
      exact Text.not_isBlank_last_trim last
    · have implied : c = 't' := by
        rw [List.getLast?_append] at last
        exact (Option.some.inj last).symm
      subst implied
      decide

end Names

/-- The canonical name of an image tells what a pull asks for, and what it is read
as is asked for in the same way. -/
structure IsSettled (image : ImageName) : Prop where
  written : ∃ mark asked, image.display = image.repository ++ mark ++ asked ∧
    mark = (if image.digest.isSome then "@" else ":") ∧ asked = image.selector ∧
    Entries.find? "fromImage" (Client.pullRequest image).query = some image.repository ∧
    Entries.find? "tag" (Client.pullRequest image).query = some asked
  again : ∃ again, ofText image.display = .ok again ∧ again.repository = image.repository ∧
    again.digest = image.digest ∧ again.selector = image.selector ∧
    again.display = image.display

theorem Names.isSettled {text : String} {image : ImageName}
    (names : Names (Text.trim text).toList image) : image.IsSettled where
  written := ⟨_, _, image.display_eq, rfl, rfl, rfl, rfl⟩
  again := by
    have trimmed : (Text.trim image.display).toList = image.display.toList := by
      rw [names.trim_display]
    exact ⟨image.tagged, ofText_of_names trimmed names.display, image.repository_tagged,
      image.digest_tagged, image.selector_tagged, image.display_tagged⟩

/-- A text is read as the image that it names, and the canonical name of that image
is stable. A text is refused exactly if it names none. -/
theorem ofText_isStable (text : String) :
    (∀ image, ofText text = .ok image ↔ Names (Text.trim text).toList image) ∧
    (∀ image, ofText text = .ok image → image.IsSettled) ∧
    ∀ e, ofText text = .error e ↔
      e = .invalidImageName (Text.trim text) ∧ NamesNone (Text.trim text).toList := by
  refine ⟨fun image => ofText_eq_ok_iff, ?_, fun e => ofText_eq_error_iff⟩
  intro image read
  exact (ofText_eq_ok_iff.mp read).isSettled

/-- The colon of a port is no mark of a tag, one without a tag behind it is. -/
theorem ofText_isStable_port :
    ofText " registry:5000/app " = .ok ⟨"registry:5000/app", none, none⟩ ∧
    (⟨"registry:5000/app", none, none⟩ : ImageName).IsSettled ∧
    ofText "registry:5000/app:" = .error (.invalidImageName "registry:5000/app:") := by
  have read : ofText " registry:5000/app " = .ok ⟨"registry:5000/app", none, none⟩ := by decide
  have namesNone : NamesNone (Text.trim "registry:5000/app:").toList :=
    @NamesNone.tagMissing "registry:5000/app".toList (by decide)
  exact ⟨read, (ofText_isStable _).2.1 _ read, ((ofText_isStable _).2.2 _).mpr ⟨rfl, namesNone⟩⟩

end ComposeDeploy.ImageName
