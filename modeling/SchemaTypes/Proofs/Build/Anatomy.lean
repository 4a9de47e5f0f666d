/-
This file takes the resolution of a fragment apart into changes of the progress and resolutions of
other fragments, whether it succeeds or fails.
Main statement: what is closed under these ways to resolve a fragment holds of every resolution.
-/
import SchemaTypes.Compilation.Result
import SchemaTypes.Proofs.Build.Outcome
import SchemaTypes.Proofs.Build.Transition
import SchemaTypes.Proofs.Failures.Fault
import SchemaTypes.Proofs.Meaning.Outline

namespace SchemaTypes.Build

section Ends

variable {α β : Type}

/-- The value of a step or its error, and the progress that it has come to. -/
def Ends (act : Build α) (before : Progress) : Except CompileError α → Progress → Prop
  | .ok value, after => act before = .ok value after
  | .error error, after => act before = .error error after

variable {act : Build α} {next : α → Build β} {before after : Progress}

/-- Two steps end where the first one fails or where the second one ends behind it. -/
theorem ends_bind {outcome : Except CompileError β} :
    Ends (act >>= next) before outcome after ↔
      (∃ error, outcome = .error error ∧ Ends act before (.error error) after) ∨
        ∃ value middle, Ends act before (.ok value) middle ∧
          Ends (next value) middle outcome after := by
  cases outcome <;> simp [Ends, bind_eq_ok, bind_eq_error]

@[simp] theorem ends_pure {value : α} {outcome : Except CompileError α} :
    Ends (pure value) before outcome after ↔ outcome = .ok value ∧ before = after := by
  cases outcome <;> simp [Ends, eq_comm]

@[simp] theorem ends_throw {error : CompileError} {outcome : Except CompileError α} :
    Ends (throw error) before outcome after ↔ outcome = .error error ∧ before = after := by
  cases outcome <;> simp [Ends, eq_comm]

@[simp] theorem ends_allocate {shape : Shape} {outcome : Except CompileError NodeId} :
    Ends (allocate shape) before outcome after ↔
      outcome = .ok before.model.size ∧ before.add shape = after := by
  cases outcome <;> simp [Ends, eq_comm]

@[simp] theorem ends_forwardReference {key name : String}
    {outcome : Except CompileError NodeId} :
    Ends (forwardReference key name) before outcome after ↔
      outcome = .ok before.model.size ∧ before.refer key name = after := by
  cases outcome <;> simp [Ends, eq_comm]

@[simp] theorem ends_get_bind {next : Progress → Build β} {outcome : Except CompileError β} :
    Ends (get >>= next) before outcome after ↔ Ends (next before) before outcome after := by
  cases outcome <;> simp [Ends]

@[simp] theorem ends_modify_bind {change : Progress → Progress} {next : PUnit → Build β}
    {outcome : Except CompileError β} :
    Ends (modify change >>= next) before outcome after ↔
      Ends (next ⟨⟩) (change before) outcome after := by
  cases outcome <;> simp [Ends]

/-- An event is noted whatever comes of the step, with a node only if there is one. -/
theorem ends_noting {event : Option NodeId → Event} {act : Build NodeId}
    {outcome : Except CompileError NodeId} :
    Ends (noting event act) before outcome after ↔
      ∃ last, Ends act before outcome last ∧ last.note (event outcome.toOption) = after := by
  cases outcome <;> simp [Ends, noting_eq_ok, noting_eq_error, Except.toOption]

/-- What was entered is left whatever comes of the step inside. -/
theorem ends_between {enter leave : Progress → Progress} {outcome : Except CompileError α} :
    Ends (between enter leave act) before outcome after ↔
      ∃ last, Ends act (enter before) outcome last ∧ leave last = after := by
  cases outcome <;> simp [Ends, between_eq_ok, between_eq_error]

/-- A step reaches a state of one kind, or it fails in one of another kind. -/
def Leads (reached : Progress → Prop) (failed : CompileError → Progress → Prop) :
    Except CompileError α → Progress → Prop
  | .ok _, after => reached after
  | .error error, after => failed error after

/-- Where the step for each member leads, the steps for all members together lead. -/
theorem each_leads {act : α → Build β} {reached : Progress → Prop}
    {failed : CompileError → Progress → Prop} {members : List α}
    (part : ∀ member ∈ members, ∀ before outcome after, reached before →
      Ends (act member) before outcome after → Leads reached failed outcome after)
    {outcome : Except CompileError (List β)} (ready : reached before)
    (taken : Ends (each act members) before outcome after) :
    Leads reached failed outcome after := by
  induction members generalizing before outcome after with
  | nil =>
      obtain ⟨rfl, rfl⟩ := ends_pure.mp taken
      exact ready
  | cons member members inductionHypothesis =>
      rcases ends_bind.mp taken with ⟨error, rfl, failedHere⟩ | ⟨value, middle, done, taken⟩
      · exact part member List.mem_cons_self _ _ _ ready failedHere
      · have onward := part member List.mem_cons_self _ _ _ ready done
        have rest {outcome after} := @inductionHypothesis middle after
          (fun later inside => part later (List.mem_cons_of_mem _ inside)) outcome onward
        rcases ends_bind.mp taken with ⟨error, rfl, failedLater⟩ | ⟨values, last, doneLater, taken⟩
        · exact rest failedLater
        · obtain ⟨rfl, rfl⟩ := ends_pure.mp taken
          exact @rest (.ok values) _ doneLater

end Ends

/-- Nodes were named, described and declared, which leaves everything else alone. -/
structure Retouched (before after : Progress) : Prop where
  frame : after.frame = before.frame
  outer : after.outer = before.outer
  pending : after.pending = before.pending
  forward : after.forward = before.forward
  files : after.files = before.files
  size : after.model.size = before.model.size
  shape : ∀ node, (after.node node).shape = (before.node node).shape
  enums : after.declarations.enums = before.declarations.enums
  journal : after.journal = before.journal ∨
    ∃ origin key node, after.journal = .declared origin key node :: before.journal

/-- Completing a node names it, describes it or declares it. -/
theorem adopted_retouched (fragment : Json) (site : Site) (node : NodeId) (before : Progress) :
    Retouched before (adoptDescription fragment node (adoptName fragment site node before)) := by
  have described (middle : Progress) : (adoptDescription fragment node middle) = middle ∨
      ∃ description, adoptDescription fragment node middle =
        middle.setDescription node description := by
    unfold adoptDescription
    split
    · exact .inr ⟨_, rfl⟩
    · exact .inl rfl
  have named : Retouched before (adoptName fragment site node before) := by
    unfold adoptName
    split
    · split
      · exact ⟨rfl, rfl, rfl, rfl, rfl, rfl, fun _ => rfl, rfl, .inl rfl⟩
      · split
        · exact ⟨rfl, rfl, rfl, rfl, rfl, Model.size_setId .., fun _ => Model.shape_setId ..,
            rfl, .inl rfl⟩
        · exact ⟨rfl, rfl, rfl, rfl, rfl, Model.size_setId .., fun _ => Model.shape_setId ..,
            rfl, .inr ⟨_, _, _, rfl⟩⟩
    · exact ⟨rfl, rfl, rfl, rfl, rfl, rfl, fun _ => rfl, rfl, .inl rfl⟩
  rcases described (adoptName fragment site node before) with same | ⟨description, same⟩
  · rw [same]
    exact named
  · rw [same]
    exact ⟨named.frame, named.outer, named.pending, named.forward, named.files,
      (Model.size_setDescription ..).trans named.size,
      fun other => (Model.shape_setDescription ..).trans (named.shape other), named.enums,
      named.journal⟩

/-- Finishing a pointer renames and declares its node. -/
theorem finishPointer_retouched (settings : Settings) (frame : Frame) (pointer : String)
    (node : NodeId) (before : Progress) :
    Retouched before (finishPointer settings frame pointer node before) := by
  simp only [finishPointer]
  split
  · exact ⟨rfl, rfl, rfl, rfl, rfl, Model.size_setId .., fun _ => Model.shape_setId .., rfl,
      .inr ⟨_, _, _, rfl⟩⟩
  · exact ⟨rfl, rfl, rfl, rfl, rfl, rfl, fun _ => rfl, rfl, .inl rfl⟩

/-- A file is remembered with the node of its document, which is simple then, or with a reference to
it. -/
theorem finishFile_cases {settings : Settings} {path : Path} {node loaded : NodeId}
    {closed after : Progress} (finished : finishFile settings path node closed = .ok loaded after) :
    ∃ middle, Retouched closed middle ∧
      (loaded = node ∧ (closed.node node).isSimple = true ∧ after = middle.remember path node ∨
        loaded = middle.model.size ∧
          ∃ name, after = (middle.add (.reference name)).remember path loaded) := by
  simp only [finishFile] at finished
  split at finished
  · simp only [EStateM.Result.ok.injEq] at finished
    obtain ⟨rfl, rfl⟩ := finished
    refine ⟨(closed.release path.text).declare (.file path) path.text node _,
      ⟨rfl, rfl, rfl, rfl, rfl, Model.size_setId .., fun _ => Model.shape_setId .., rfl,
        .inr ⟨_, _, _, rfl⟩⟩, .inr ⟨(Model.size_setId ..).symm, _, rfl⟩⟩
  · next unneeded =>
    simp only [EStateM.Result.ok.injEq] at finished
    obtain ⟨rfl, rfl⟩ := finished
    simp only [Progress.needsDeclaration, Bool.not_eq_true, Bool.or_eq_false_iff] at unneeded
    have simple : (closed.node node).isSimple = true := by simpa using unneeded.2
    unfold inlineFile
    split
    · exact ⟨closed.release path.text,
        ⟨rfl, rfl, rfl, rfl, rfl, rfl, fun _ => rfl, rfl, .inl rfl⟩, .inl ⟨rfl, simple, rfl⟩⟩
    · exact ⟨(closed.release path.text).setId node none,
        ⟨rfl, rfl, rfl, rfl, rfl, Model.size_setId .., fun _ => Model.shape_setId .., rfl,
          .inl rfl⟩, .inl ⟨rfl, simple, rfl⟩⟩

/-- Relates a fragment and the progress before its resolution to what comes of it. -/
abbrev Effect : Type :=
  Json → Site → Progress → Except CompileError NodeId → Progress → Prop

/-- A resolver has no other effects than these. -/
def Obeys (effect : Effect) (resolve : Resolver) : Prop :=
  ∀ fragment site before outcome after,
    Ends (resolve fragment site) before outcome after → effect fragment site before outcome after

/-- Some parts of a fragment have been made: fragments are resolved, and leaves are added. -/
inductive Parts (effect : Effect) (fragment : Json) (before : Progress) : Progress → Prop where
  | start : Parts effect fragment before before
  | leaf {middle : Progress} (parts : Parts effect fragment before middle) (shape : Shape)
      (noEnum : shape.isNamedEnum = false) (noReference : ∀ name, shape ≠ .reference name)
      (empty : shape.children = []) : Parts effect fragment before (middle.add shape)
  | part {middle after : Progress} (parts : Parts effect fragment before middle)
      {outline : Outline} {part : Json} {property : Option String} {node : NodeId}
      (outlined : fragment.outline? = some outline) (inside : .fragment part ∈ outline.parts)
      (resolved : effect part ⟨property, false⟩ middle (.ok node) after) :
      Parts effect fragment before after

/-- The ways in which the node of a fragment is built: from what the fragment says of its own, or as
the answer to its reference. -/
inductive Built (context : Context) (effect : Effect) (fragment : Json) (property : Option String)
    (before : Progress) : Except CompileError NodeId → Progress → Prop where
  | made {middle : Progress} (own : fragment.target? = none)
      (parts : Parts effect fragment before middle) (shape : Shape)
      (noEnum : shape.isNamedEnum = false) (noReference : ∀ name, shape ≠ .reference name) :
      Built context effect fragment property before (.ok middle.model.size) (middle.add shape)
  | enumStored {members : List EnumMember}
      (outlined : fragment.outline? = some (.leaf (.enum members))) :
      Built context effect fragment property before (.ok before.model.size)
        ((before.add (.namedEnum members)).putEnum
          ((enumName? fragment property).getD
            (generatedEnumName before.declarations.enumCount))
          (enumName? fragment property).isNone before.model.size)
  | faulty (error : CompileError)
      (enum : Rule.classify fragment = .enum ∨ Rule.classify fragment = .namedEnum)
      (outlineless : fragment.outline? = none) (fault : fragment.EnumFault error) :
      Built context effect fragment property before (.error error) before
  | partFailed {middle after : Progress} (parts : Parts effect fragment before middle)
      {outline : Outline} {part : Json} {partProperty : Option String} {error : CompileError}
      (outlined : fragment.outline? = some outline) (inside : .fragment part ∈ outline.parts)
      (failed : effect part ⟨partProperty, false⟩ middle (.error error) after) :
      Built context effect fragment property before (.error error) after
  | documentReferred (refers : fragment.target? = some .document) :
      Built context effect fragment property before (.ok before.model.size)
        (before.refer before.frame.ownKey before.frame.name)
  | pointerStored {pointer : String} {node : NodeId}
      (refers : fragment.target? = some (.pointer pointer))
      (stored : before.declarations.get? (before.frame.pointerKey pointer) = some node) :
      Built context effect fragment property before (.ok node)
        (before.note (.followed before.frame pointer (some node)))
  | pointerReferred {pointer : String} (refers : fragment.target? = some (.pointer pointer))
      (missing : before.declarations.get? (before.frame.pointerKey pointer) = none)
      (awaited : before.frame.pointerKey pointer ∈ before.pending) :
      Built context effect fragment property before (.ok before.model.size)
        ((before.refer (before.frame.pointerKey pointer)
            (pointerName context.settings pointer)).note
          (.followed before.frame pointer (some before.model.size)))
  | pointerLost {pointer : String} (refers : fragment.target? = some (.pointer pointer))
      (nowhere : Pointer.lookup? before.frame.document (Pointer.segments pointer) = none) :
      Built context effect fragment property before (.ok before.model.size)
        ((before.add .any).note (.followed before.frame pointer (some before.model.size)))
  | pointerFinished {pointer : String} {target : Json} {node : NodeId} {last : Progress}
      (refers : fragment.target? = some (.pointer pointer))
      (missing : before.declarations.get? (before.frame.pointerKey pointer) = none)
      (fresh : before.frame.pointerKey pointer ∉ before.pending)
      (found : Pointer.lookup? before.frame.document (Pointer.segments pointer) = some target)
      (resolved : effect target .inner (before.enter before.frame pointer) (.ok node) last) :
      Built context effect fragment property before (.ok node)
        ((finishPointer context.settings before.frame pointer node
            (last.leave (before.frame.pointerKey pointer))).note
          (.followed before.frame pointer (some node)))
  | pointerFailed {pointer : String} {target : Json} {error : CompileError} {last : Progress}
      (refers : fragment.target? = some (.pointer pointer))
      (missing : before.declarations.get? (before.frame.pointerKey pointer) = none)
      (fresh : before.frame.pointerKey pointer ∉ before.pending)
      (found : Pointer.lookup? before.frame.document (Pointer.segments pointer) = some target)
      (failed : effect target .inner (before.enter before.frame pointer) (.error error) last) :
      Built context effect fragment property before (.error error)
        ((last.leave (before.frame.pointerKey pointer)).note (.followed before.frame pointer none))
  | remote {file : String} (refers : fragment.target? = some (.file file))
      (away : Path.isRemote file = true) :
      Built context effect fragment property before (.error (.remoteReference file)) before
  | fileStored {file : String} {node : NodeId} (refers : fragment.target? = some (.file file))
      (here : Path.isRemote file = false)
      (stored : before.files.lookup (before.frame.filePath file) = some node) :
      Built context effect fragment property before (.ok node)
        (before.note (.located (before.frame.filePath file) (some node)))
  | fileReferred {file : String} (refers : fragment.target? = some (.file file))
      (here : Path.isRemote file = false)
      (missing : before.files.lookup (before.frame.filePath file) = none) (frame : Frame)
      (opened : frame ∈ before.frames)
      (key : frame.key = some (before.frame.filePath file).text) :
      Built context effect fragment property before (.ok before.model.size)
        ((before.refer (before.frame.filePath file).text frame.name).note
          (.located (before.frame.filePath file) (some before.model.size)))
  | unreadable {file : String} (refers : fragment.target? = some (.file file))
      (here : Path.isRemote file = false)
      (missing : before.files.lookup (before.frame.filePath file) = none)
      (fresh : ∀ frame ∈ before.frames, frame.key ≠ some (before.frame.filePath file).text)
      (error : CompileError)
      (unserved : ∀ document, ¬context.loader.Serves (before.frame.filePath file) document)
      (fault : context.loader.FileFault (before.frame.filePath file) error) :
      Built context effect fragment property before (.error error)
        ((before.note (.read (before.frame.filePath file))).note
          (.located (before.frame.filePath file) none))
  | fileFinished {file : String} {document : Json} {node loaded : NodeId} {last closed : Progress}
      (refers : fragment.target? = some (.file file)) (here : Path.isRemote file = false)
      (missing : before.files.lookup (before.frame.filePath file) = none)
      (fresh : ∀ frame ∈ before.frames, frame.key ≠ some (before.frame.filePath file).text)
      (served : context.loader.Serves (before.frame.filePath file) document)
      (resolved : effect document ⟨property, true⟩
        ((before.note (.read (before.frame.filePath file))).push
          (fileFrame (before.frame.filePath file) document)) (.ok node) last)
      (finished : finishFile context.settings (before.frame.filePath file) node last.pop =
        .ok loaded closed) :
      Built context effect fragment property before (.ok loaded)
        (closed.note (.located (before.frame.filePath file) (some loaded)))
  | fileFailed {file : String} {document : Json} {error : CompileError} {last : Progress}
      (refers : fragment.target? = some (.file file)) (here : Path.isRemote file = false)
      (missing : before.files.lookup (before.frame.filePath file) = none)
      (fresh : ∀ frame ∈ before.frames, frame.key ≠ some (before.frame.filePath file).text)
      (served : context.loader.Serves (before.frame.filePath file) document)
      (failed : effect document ⟨property, true⟩
        ((before.note (.read (before.frame.filePath file))).push
          (fileFrame (before.frame.filePath file) document)) (.error error) last) :
      Built context effect fragment property before (.error error)
        (last.pop.note (.located (before.frame.filePath file) none))

/-- A fragment is resolved when its node is built and has taken on name and description. -/
inductive Resolved (context : Context) (effect : Effect) (fragment : Json) (site : Site)
    (before : Progress) : Except CompileError NodeId → Progress → Prop where
  | completed {node : NodeId} {middle : Progress}
      (built : Built context effect fragment site.property before (.ok node) middle) :
      Resolved context effect fragment site before (.ok node)
        ((adoptDescription fragment node (adoptName fragment site node middle)).note
          (.visited before.frame fragment (some node)))
  | failed {error : CompileError} {middle : Progress}
      (built : Built context effect fragment site.property before (.error error) middle) :
      Resolved context effect fragment site before (.error error)
        (middle.note (.visited before.frame fragment none))

variable {context : Context} {resolve : Resolver} {effect : Effect} {fragment : Json}
  {property : Option String} {before : Progress}

/-- Some parts have been made, or one of them has failed. -/
abbrev PartsLead (context : Context) (effect : Effect) (fragment : Json)
    (property : Option String) (before : Progress) {α : Type} :
    Except CompileError α → Progress → Prop :=
  Leads (Parts effect fragment before)
    fun error after => Built context effect fragment property before (.error error) after

section Builders

variable {outcome : Except CompileError NodeId} {middle after : Progress}

/-- A node that is made of its parts is a way to build a fragment. -/
theorem made_built {shape : Shape} (own : fragment.target? = none)
    (parts : Parts effect fragment before middle)
    (noEnum : shape.isNamedEnum = false) (noReference : ∀ name, shape ≠ .reference name)
    (taken : Ends (allocate shape) middle outcome after) :
    Built context effect fragment property before outcome after := by
  obtain ⟨rfl, rfl⟩ := ends_allocate.mp taken
  exact .made own parts shape noEnum noReference

/-- A shape is added behind its parts. -/
theorem parts_built {α : Type} {act : Build α} (own : fragment.target? = none)
    (make : α → Shape)
    (parts : ∀ outcome after, Ends act middle outcome after →
      PartsLead context effect fragment property before outcome after)
    (noEnum : ∀ value, (make value).isNamedEnum = false)
    (noReference : ∀ value name, make value ≠ .reference name)
    (taken : Ends (act >>= fun value => allocate (make value)) middle outcome after) :
    Built context effect fragment property before outcome after := by
  rcases ends_bind.mp taken with ⟨error, rfl, failed⟩ | ⟨value, last, done, taken⟩
  · exact parts _ _ failed
  · exact made_built own (parts _ _ done) (noEnum value) (noReference value) taken

/-- An enum makes a union of leaves. -/
theorem buildEnum_built (enum : Rule.classify fragment = .enum)
    (taken : Ends (buildEnum fragment) before outcome after) :
    Built context effect fragment property before outcome after := by
  cases values : fragment.itemsField? "enum" with
  | none =>
      simp only [buildEnum, values, ends_throw] at taken
      obtain ⟨rfl, rfl⟩ := taken
      exact .faulty _ (.inl enum) (by simp [Json.outline?, enum, values])
        (.notArray (.inl enum) values)
  | some values =>
      rw [buildEnum, values] at taken
      refine parts_built (by simp [Json.target?, enum]) .union
        (fun outcome after => each_leads ?_ .start) (by simp [Shape.isNamedEnum])
        (by simp) taken
      intro value _ state outcome after parts taken
      obtain ⟨rfl, rfl⟩ := ends_allocate.mp taken
      exact parts.leaf (.literal value) rfl (by simp) rfl

/-- A named enum is one node that is stored by its name, or a fault says why there is none. -/
theorem buildNamedEnum_built (enum : Rule.classify fragment = .namedEnum)
    (taken : Ends (buildNamedEnum fragment property) before outcome after) :
    Built context effect fragment property before outcome after := by
  have faulty {error : CompileError} (outlineless : fragment.enumOutline? = none)
      (fault : fragment.EnumFault error) :
      Built context effect fragment property before (.error error) before :=
    .faulty error (.inr enum) (by rw [Json.outline?, enum]; exact outlineless) fault
  cases values : fragment.itemsField? "enum" with
  | none =>
      simp only [buildNamedEnum, values, ends_throw] at taken
      obtain ⟨rfl, rfl⟩ := taken
      exact faulty (by simp [Json.enumOutline?, values]) (.notArray (.inr enum) values)
  | some enumValues =>
      cases names : fragment.itemsField? "tsEnumNames" with
      | none =>
          simp only [buildNamedEnum, values, names, ends_throw] at taken
          obtain ⟨rfl, rfl⟩ := taken
          exact faulty (by simp [Json.enumOutline?, values, names]) (.namesNotArray enum names)
      | some enumNames =>
          simp only [buildNamedEnum, values, names] at taken
          split at taken
          · next lengths =>
            simp only [ends_bind, ends_throw] at taken
            rcases taken with ⟨error, rfl, same, rfl⟩ | ⟨_, _, ⟨failed, _⟩, _⟩
            · cases same
              exact faulty (by simp [Json.enumOutline?, values, names, lengths])
                (.lengthsDiffer enum values names lengths)
            · cases failed
          · next lengths =>
            cases found : enumMembers? enumNames enumValues with
            | none =>
                simp only [found, ends_throw] at taken
                obtain ⟨rfl, rfl⟩ := taken
                obtain ⟨name, member, noText⟩ :=
                  exists_noText (Decidable.not_not.mp lengths) found
                exact faulty (by simp [Json.enumOutline?, values, names, found])
                  (.nameNotText enum names member noText)
            | some members =>
                simp only [found, ends_get_bind] at taken
                rcases ends_bind.mp taken with ⟨error, rfl, failed⟩ | ⟨made, middle, added, taken⟩
                · cases (ends_allocate.mp failed).1
                · obtain ⟨same, rfl⟩ := ends_allocate.mp added
                  cases same
                  simp only [ends_modify_bind, ends_pure] at taken
                  obtain ⟨rfl, rfl⟩ := taken
                  refine .enumStored ?_
                  rw [Json.outline?, enum]
                  simp_all [Json.enumOutline?]

/-- A reference to the whole document is a forward reference to its key. -/
theorem followDocument_built (refers : fragment.target? = some .document)
    (taken : Ends followDocument before outcome after) :
    Built context effect fragment property before outcome after := by
  simp only [followDocument, ends_get_bind, ends_forwardReference] at taken
  obtain ⟨rfl, rfl⟩ := taken
  exact .documentReferred refers

/-- A document is read, or the reading ends in the fault of its file; it is noted either way. -/
theorem ends_readDocument {loader : Loader} {path : Path} {outcome : Except CompileError Json}
    (taken : Ends (readDocument loader path) before outcome after) :
    after = before.note (.read path) ∧
      ((∃ document, outcome = .ok document ∧ loader.Serves path document) ∨
        ∃ error, outcome = .error error ∧ (∀ document, ¬loader.Serves path document) ∧
          loader.FileFault path error) := by
  simp only [readDocument, ends_modify_bind] at taken
  cases served : loader.read path with
  | error source =>
      simp only [served, ends_throw] at taken
      obtain ⟨rfl, rfl⟩ := taken
      exact ⟨rfl, .inr ⟨_, rfl, by simp [Loader.Serves, served], .missing served⟩⟩
  | ok text =>
      cases parsed : Json.parse text with
      | error source =>
          simp only [served, parsed, ends_throw] at taken
          obtain ⟨rfl, rfl⟩ := taken
          exact ⟨rfl, .inr ⟨_, rfl, by simp [Loader.Serves, served, parsed],
            .malformed served parsed⟩⟩
      | ok document =>
          simp only [served, parsed, ends_pure] at taken
          obtain ⟨rfl, rfl⟩ := taken
          exact ⟨rfl, .inl ⟨document, rfl, text, served, parsed⟩⟩

/-- An interface takes its properties and at most one more, which stands for all other names. -/
theorem indexed_built {indexed : Build NodeId} {properties : List Property}
    (own : fragment.target? = none)
    (lead : ∀ outcome after, Ends indexed middle outcome after →
      PartsLead context effect fragment property before outcome after)
    (taken : Ends (do
      let type ← indexed
      allocate (.interface (properties ++ [(⟨indexSignature, true, type⟩ : Property)]))) middle
        outcome after) :
    Built context effect fragment property before outcome after :=
  parts_built own (fun type => .interface (properties ++ [⟨indexSignature, true, type⟩])) lead
    (by simp [Shape.isNamedEnum]) (by simp) taken

variable (obeys : Obeys effect resolve)

include obeys

/-- What is resolved for every member of a list is a part. -/
theorem members_lead {outline : Outline} {members : List Json} (part : Json → Json)
    (outlined : fragment.outline? = some outline)
    (inside : ∀ member ∈ members, .fragment (part member) ∈ outline.parts)
    (outcome : Except CompileError (List NodeId)) (after : Progress)
    (taken : Ends (each (fun member => resolve (part member) .inner) members) before outcome
      after) :
    PartsLead context effect fragment property before outcome after := by
  refine each_leads ?_ .start taken
  intro member present state outcome after parts taken
  have done := obeys _ _ _ _ _ taken
  cases outcome with
  | error error => exact .partFailed parts outlined (inside member present) done
  | ok node => exact parts.part outlined (inside member present) done

/-- A shape that joins the members under a keyword is made of these parts. -/
theorem resolveMembers_built {keyword : String} {head : Head} (make : List NodeId → Shape)
    (outlined : fragment.outline? = some ⟨head, fragment.memberParts keyword⟩)
    (noEnum : ∀ nodes, (make nodes).isNamedEnum = false)
    (noReference : ∀ nodes name, make nodes ≠ .reference name)
    (taken : Ends (resolveMembers resolve fragment keyword >>= fun nodes => allocate (make nodes))
      before outcome after) :
    Built context effect fragment property before outcome after :=
  parts_built (Json.target?_eq_none outlined) make
    (members_lead obeys id outlined fun member present =>
      List.mem_map.mpr ⟨member, present, rfl⟩) noEnum noReference taken

/-- A list of types is made of one part for each type. -/
theorem buildTypeUnion_built (union : Rule.classify fragment = .union)
    (taken : Ends (buildTypeUnion resolve
      (((Rule.schemaType? fragment).bind Json.items?).getD [])) before outcome after) :
    Built context effect fragment property before outcome after := by
  refine parts_built (by simp [Json.target?, union]) .union
    (members_lead obeys (fun type => .object [("type", type)]) (by rw [Json.outline?, union]) ?_)
    (by simp [Shape.isNamedEnum]) (by simp) taken
  intro type present
  exact List.mem_map.mpr ⟨type, present, rfl⟩

/-- An array is made of its items. -/
theorem buildArray_built
    (array : Rule.classify fragment = .typedArray)
    (taken : Ends (buildArray resolve (fragment.get? "items")) before outcome after) :
    Built context effect fragment property before outcome after := by
  have outlined : fragment.outline? =
      some ⟨.array, [(fragment.get? "items").elim (.leaf .any) .fragment]⟩ := by
    rw [Json.outline?, array]
  cases items : fragment.get? "items" with
  | none =>
      rw [items] at taken
      refine parts_built (Json.target?_eq_none outlined) .array ?_ (by simp [Shape.isNamedEnum])
        (by simp) taken
      intro outcome after added
      obtain ⟨rfl, rfl⟩ := ends_allocate.mp added
      exact .leaf .start .any rfl (by simp) rfl
  | some items =>
      rw [items] at taken outlined
      refine parts_built (Json.target?_eq_none outlined) .array ?_ (by simp [Shape.isNamedEnum])
        (by simp) taken
      intro outcome after resolved
      have done := obeys _ _ _ _ _ resolved
      cases outcome with
      | error error => exact .partFailed .start outlined List.mem_cons_self done
      | ok node => exact .part .start outlined List.mem_cons_self done

/-- Properties are resolved in their order up to the first one that fails. -/
theorem resolveProperties_lead {outline : Outline}
    (outlined : fragment.outline? = some outline)
    (inside : ∀ part ∈ fragment.listedParts, part.2 ∈ outline.parts) {required : List String}
    {outcome : Except CompileError (List Property)}
    (taken : Ends (resolveProperties resolve required
      ((fragment.fieldsField? "properties").getD [])) before outcome after) :
    PartsLead context effect fragment property before outcome after := by
  refine each_leads ?_ .start taken
  rintro ⟨name, part⟩ present state outcome after parts taken
  have member : .fragment part ∈ outline.parts :=
    inside _ (List.mem_map.mpr ⟨(name, part), present, rfl⟩)
  rcases ends_bind.mp taken with ⟨error, rfl, failed⟩ | ⟨type, last, done, taken⟩
  · exact .partFailed parts outlined member (obeys _ _ _ _ _ failed)
  · obtain ⟨rfl, rfl⟩ := ends_pure.mp taken
    exact parts.part outlined member (obeys _ _ _ _ _ done)

/-- An interface is made of its properties and of the type of all others. -/
theorem buildInterface_built
    (outlined : fragment.outline? = some fragment.interfaceOutline)
    (taken : Ends (buildInterface resolve fragment) before outcome after) :
    Built context effect fragment property before outcome after := by
  have own := Json.target?_eq_none outlined
  have listed : ∀ part ∈ fragment.listedParts, part.2 ∈ fragment.interfaceOutline.parts :=
    fun part present => Json.mem_interfaceOutline present
  rcases ends_bind.mp taken with ⟨error, rfl, failed⟩ | ⟨properties, middle, done, taken⟩
  · exact resolveProperties_lead obeys outlined listed failed
  have lead : PartsLead context effect fragment property before (.ok properties) middle :=
    resolveProperties_lead obeys outlined listed done
  have parts : Parts effect fragment before middle := lead
  have any : ∀ outcome after, Ends (allocate .any) middle outcome after →
      PartsLead context effect fragment property before outcome after := by
    intro outcome after added
    obtain ⟨rfl, rfl⟩ := ends_allocate.mp added
    exact parts.leaf .any rfl (by simp) rfl
  cases additional : fragment.get? "additionalProperties" with
  | none =>
      simp only [additional] at taken
      split at taken
      · split at taken
        · exact made_built own parts rfl (by simp) taken
        · exact made_built own parts rfl (by simp) taken
      · exact indexed_built own any taken
  | some value =>
      cases value with
      | object fields =>
          simp only [additional] at taken
          refine indexed_built own ?_ taken
          intro outcome after resolved
          have done := obeys _ _ _ _ _ resolved
          have inside : .fragment (.object fields) ∈ fragment.interfaceOutline.parts := by
            simp [Json.interfaceOutline, additional, Outline.interface]
          cases outcome with
          | error error => exact .partFailed parts outlined inside done
          | ok node => exact parts.part outlined inside done
      | bool allowed =>
          cases allowed with
          | true =>
              simp only [additional] at taken
              split at taken
              · exact made_built own parts rfl (by simp) taken
              · exact indexed_built own any taken
          | false =>
              simp only [additional] at taken
              exact made_built own parts rfl (by simp) taken
      | _ =>
          simp only [additional] at taken
          exact made_built own parts rfl (by simp) taken

/-- A file that is met for the first time is read, resolved and closed. -/
theorem openFile_built {file : String} {last : Progress}
    (refers : fragment.target? = some (.file file)) (here : Path.isRemote file = false)
    (missing : before.files.lookup (before.frame.filePath file) = none)
    (fresh : ∀ frame ∈ before.frames, frame.key ≠ some (before.frame.filePath file).text)
    (taken : Ends (do
      let document ← readDocument context.loader (before.frame.filePath file)
      let node ← inFrame (fileFrame (before.frame.filePath file) document)
        (resolve document ⟨property, true⟩)
      finishFile context.settings (before.frame.filePath file) node) before outcome last) :
    Built context effect fragment property before outcome
      (last.note (.located (before.frame.filePath file) outcome.toOption)) := by
  rcases ends_bind.mp taken with ⟨error, rfl, failed⟩ | ⟨document, middle, read, taken⟩
  · obtain ⟨rfl, ⟨_, impossible, _⟩ | ⟨_, same, unserved, fault⟩⟩ := ends_readDocument failed
    · cases impossible
    · cases same
      exact .unreadable refers here missing fresh error unserved fault
  obtain ⟨rfl, ⟨_, same, served⟩ | ⟨_, impossible, _⟩⟩ := ends_readDocument read
  · cases same
    rcases ends_bind.mp taken with ⟨error, rfl, failed⟩ | ⟨node, closed, done, taken⟩
    · obtain ⟨inner, ended, rfl⟩ := ends_between.mp failed
      exact .fileFailed refers here missing fresh served (obeys _ _ _ _ _ ended)
    · obtain ⟨inner, ended, rfl⟩ := ends_between.mp done
      cases outcome with
      | ok loaded =>
          exact .fileFinished refers here missing fresh served (obeys _ _ _ _ _ ended) taken
      | error error =>
          simp only [Ends, finishFile] at taken
          split at taken <;> cases taken
  · cases impossible

/-- A pointer is followed in one of the ways to answer it. -/
theorem followPointer_built {pointer : String}
    (refers : fragment.target? = some (.pointer pointer))
    (taken : Ends (followPointer context.settings resolve pointer) before outcome after) :
    Built context effect fragment property before outcome after := by
  simp only [followPointer, ends_get_bind, ends_noting] at taken
  obtain ⟨last, taken, rfl⟩ := taken
  simp only [resolvePointer, ends_get_bind] at taken
  cases stored : before.declarations.get? (before.frame.pointerKey pointer) with
  | some existing =>
      simp only [stored, ends_pure] at taken
      obtain ⟨rfl, rfl⟩ := taken
      exact .pointerStored refers stored
  | none =>
      simp only [stored] at taken
      split at taken
      · next awaited =>
        obtain ⟨rfl, rfl⟩ := ends_forwardReference.mp taken
        exact .pointerReferred refers stored awaited
      · next fresh =>
        cases found : Pointer.lookup? before.frame.document (Pointer.segments pointer) with
        | none =>
            simp only [found, ends_allocate] at taken
            obtain ⟨rfl, rfl⟩ := taken
            exact .pointerLost refers found
        | some target =>
            simp only [found, whilePending] at taken
            rcases ends_bind.mp taken with ⟨error, rfl, failed⟩ | ⟨node, middle, done, taken⟩
            · obtain ⟨inner, ended, rfl⟩ := ends_between.mp failed
              exact .pointerFailed refers stored fresh found (obeys _ _ _ _ _ ended)
            · obtain ⟨inner, ended, rfl⟩ := ends_between.mp done
              simp only [ends_modify_bind, ends_pure] at taken
              obtain ⟨rfl, rfl⟩ := taken
              exact .pointerFinished refers stored fresh found (obeys _ _ _ _ _ ended)

/-- A file is followed in one of the ways to answer it. -/
theorem followFile_built {file : String} (refers : fragment.target? = some (.file file))
    (taken : Ends (followFile context resolve file property) before outcome after) :
    Built context effect fragment property before outcome after := by
  unfold followFile at taken
  split at taken
  · next away =>
    rcases ends_bind.mp taken with ⟨error, rfl, failed⟩ | ⟨_, _, failed, _⟩
    · obtain ⟨same, rfl⟩ := ends_throw.mp failed
      cases same
      exact .remote refers away
    · cases (ends_throw.mp failed).1
  · next here =>
    rw [Bool.not_eq_true] at here
    simp only [ends_get_bind, ends_noting] at taken
    obtain ⟨last, taken, rfl⟩ := taken
    change Ends (resolvePath context resolve (before.frame.filePath file) property) _ _ _ at taken
    simp only [resolvePath, ends_get_bind] at taken
    cases stored : before.files.lookup (before.frame.filePath file) with
    | some existing =>
        simp only [stored, ends_pure] at taken
        obtain ⟨rfl, rfl⟩ := taken
        exact .fileStored refers here stored
    | none =>
        simp only [stored] at taken
        cases found : (before.frame :: before.outer).reverse.find?
            (·.key = some (before.frame.filePath file).text) with
        | some frame =>
            simp only [found, ends_forwardReference] at taken
            obtain ⟨rfl, rfl⟩ := taken
            exact .fileReferred refers here stored frame
              (List.mem_reverse.mp (List.mem_of_find?_eq_some found))
              (by simpa using List.find?_some found)
        | none =>
            have fresh : ∀ frame ∈ before.frames,
                frame.key ≠ some (before.frame.filePath file).text := by
              intro frame opened
              simpa using List.find?_eq_none.mp found frame (List.mem_reverse.mpr opened)
            simp only [found] at taken
            exact openFile_built obeys refers here stored fresh taken

/-- A reference is answered as its target says. -/
theorem buildReference_built (reference : Rule.classify fragment = .reference)
    (taken : Ends (buildReference context resolve fragment property) before outcome after) :
    Built context effect fragment property before outcome after := by
  have asks {text : String} (field : fragment.textField? "$ref" = some text) :
      fragment.target? = some (Target.ofReference text) := by
    simp [Json.target?, reference, field]
  cases field : fragment.textField? "$ref" with
  | none =>
      simp only [buildReference, field] at taken
      exact made_built (by simp [Json.target?, reference, field]) .start rfl (by simp) taken
  | some text =>
      simp only [buildReference, field, follow] at taken
      cases target : Target.ofReference text with
      | document =>
          simp only [target] at taken
          exact followDocument_built ((asks field).trans (congrArg some target)) taken
      | pointer pointer =>
          simp only [target] at taken
          exact followPointer_built obeys ((asks field).trans (congrArg some target)) taken
      | file file =>
          simp only [target] at taken
          exact followFile_built obeys ((asks field).trans (congrArg some target)) taken

/-- Every rule builds its fragment in one of the listed ways. -/
theorem buildNode_built
    (taken : Ends (buildNode context resolve fragment property) before outcome after) :
    Built context effect fragment property before outcome after := by
  unfold buildNode at taken
  cases rule : Rule.classify fragment with
  | typedArray =>
      rw [rule] at taken
      exact buildArray_built obeys rule taken
  | namedEnum =>
      rw [rule] at taken
      exact buildNamedEnum_built rule taken
  | enum =>
      rw [rule] at taken
      exact buildEnum_built rule taken
  | namedSchema =>
      rw [rule] at taken
      exact buildInterface_built obeys (by rw [Json.outline?, rule]) taken
  | anonymousSchema =>
      rw [rule] at taken
      exact buildInterface_built obeys (by rw [Json.outline?, rule]) taken
  | allOf =>
      rw [rule] at taken
      exact resolveMembers_built obeys .intersection (by rw [Json.outline?, rule])
        (by simp [Shape.isNamedEnum]) (by simp) taken
  | anyOf =>
      rw [rule] at taken
      exact resolveMembers_built obeys .union (by rw [Json.outline?, rule])
        (by simp [Shape.isNamedEnum]) (by simp) taken
  | reference =>
      rw [rule] at taken
      exact buildReference_built obeys rule taken
  | array =>
      rw [rule] at taken
      refine parts_built (by simp [Json.target?, rule]) .array ?_ (by simp [Shape.isNamedEnum])
        (by simp) taken
      intro outcome after added
      obtain ⟨rfl, rfl⟩ := ends_allocate.mp added
      exact .leaf .start .any rfl (by simp) rfl
  | union =>
      rw [rule] at taken
      exact buildTypeUnion_built obeys rule taken
  | _ =>
      rw [rule] at taken
      exact made_built (by simp [Json.target?, rule]) .start rfl (by simp) taken

/-- A fragment is resolved in one of the listed ways when the fragments it leads to are. -/
theorem resolveBy_resolved {site : Site}
    (taken : Ends (resolveBy context resolve fragment site) before outcome after) :
    Resolved context effect fragment site before outcome after := by
  simp only [resolveBy, ends_get_bind, ends_noting] at taken
  obtain ⟨last, taken, rfl⟩ := taken
  rcases ends_bind.mp taken with ⟨error, rfl, failed⟩ | ⟨node, middle, done, taken⟩
  · exact .failed (buildNode_built obeys failed)
  · simp only [ends_modify_bind, ends_pure] at taken
    obtain ⟨rfl, rfl⟩ := taken
    exact .completed (buildNode_built obeys done)

end Builders

/-- Every resolver has an effect that is closed under the ways to resolve a fragment. -/
theorem resolveFragment_obeys
    (exhausted : ∀ fragment site before, effect fragment site before (.error .exhausted) before)
    (closed : ∀ fragment site before outcome after,
      Resolved context effect fragment site before outcome after →
        effect fragment site before outcome after) (budget : Nat) :
    Obeys effect (resolveFragment context budget) := by
  induction budget with
  | zero =>
      intro fragment site before outcome after taken
      obtain ⟨rfl, rfl⟩ := ends_throw.mp taken
      exact exhausted fragment site before
  | succ budget inductionHypothesis =>
      intro fragment site before outcome after taken
      exact closed _ _ _ _ _ (resolveBy_resolved inductionHypothesis taken)

end SchemaTypes.Build

namespace SchemaTypes.Compilation

open Build

/-- What a compilation has come to when it ends, whether it has succeeded or failed. -/
def ending (context : Context) (document : Json) (sourcePath : Option Path) : Progress :=
  match run context document sourcePath with
  | .ok _ progress => progress
  | .error _ progress => progress

/-- A compilation ends behind the resolution of its document, which it declares if it has a node. -/
theorem exists_ending (context : Context) (document : Json) (sourcePath : Option Path) :
    ∃ outcome last,
      Ends (resolveFragment context (budget context.loader document) document ⟨none, true⟩)
        (Progress.start (rootFrame document sourcePath)) outcome last ∧
      ((∃ error, outcome = .error error ∧ ending context document sourcePath = last) ∨
        ∃ root, outcome = .ok root ∧ ending context document sourcePath =
          last.declare .name (topLevelId document sourcePath) root
            (topLevelId document sourcePath)) := by
  unfold ending
  cases outcome : run context document sourcePath with
  | ok root progress =>
      simp only [run, bind_eq_ok, modify_bind, pure_apply, EStateM.Result.ok.injEq] at outcome
      obtain ⟨made, middle, resolved, rfl, rfl⟩ := outcome
      exact ⟨.ok made, middle, resolved, .inr ⟨made, rfl, rfl⟩⟩
  | error error progress =>
      simp only [run, bind_eq_error, modify_bind, pure_apply] at outcome
      rcases outcome with failed | ⟨_, _, _, impossible⟩
      · exact ⟨.error error, progress, failed, .inl ⟨error, rfl, rfl⟩⟩
      · cases impossible

/-- A compilation that succeeds declares its root under its id, and then gives the references the
names of their targets. -/
theorem exists_last {context : Context} {document : Json} {sourcePath : Option Path}
    {compilation : Compilation} (built : build context document sourcePath = .ok compilation) :
    ∃ last,
      Ends (resolveFragment context (budget context.loader document) document ⟨none, true⟩)
        (Progress.start (rootFrame document sourcePath)) (.ok compilation.root) last ∧
      compilation.id = topLevelId document sourcePath ∧
      ending context document sourcePath =
        last.declare .name compilation.id compilation.root compilation.id ∧
      compilation.progress = bindReferences (rootFrame document sourcePath).ownKey
        compilation.root (ending context document sourcePath) := by
  unfold ending
  simp only [build] at built
  cases outcome : run context document sourcePath with
  | error error progress => simp [outcome] at built
  | ok root progress =>
      simp only [outcome, Except.ok.injEq] at built
      simp only [run, bind_eq_ok, modify_bind, pure_apply, EStateM.Result.ok.injEq] at outcome
      obtain ⟨made, middle, resolved, rfl, rfl⟩ := outcome
      subst built
      exact ⟨middle, resolved, rfl, rfl, rfl⟩

end SchemaTypes.Compilation
