import Mathlib.Data.List.Forall2
import Mathlib.Data.List.Nodup
import Registrar.Plan.Basic
import Registrar.Proofs.Planning.Union

/-! Declarations in another order. The parts of a build come in no order that means anything, and
neither do the classes that one declaration names. A plan of rearranged declarations has the same
records, in another order. -/
namespace Registrar

/-- The second list has items that are the same as those of the first, in another order. -/
def Rearranges {α : Type} (same : α → α → Prop) (as bs : List α) : Prop :=
  ∃ cs, List.Forall₂ same as cs ∧ cs.Perm bs

theorem Rearranges.flatMap {α β : Type} {same : α → α → Prop} {as bs : List α} {f : α → List β}
    (h : Rearranges same as bs) (each : ∀ a b, same a b → (f a).Perm (f b)) :
    (as.flatMap f).Perm (bs.flatMap f) := by
  obtain ⟨cs, alike, moved⟩ := h
  have items : (as.flatMap f).Perm (cs.flatMap f) := by
    clear moved
    induction alike with
    | nil => exact .refl _
    | @cons a c as cs first _ ih =>
      rw [List.flatMap_cons, List.flatMap_cons]
      exact (each a c first).append ih
  exact items.trans (moved.flatMap_right f)

/-- The same declaration, with the classes that it names in another order. -/
def ReflectiveClass.Reordered (a b : ReflectiveClass) : Prop :=
  b = { a with classNames := b.classNames } ∧ a.classNames.Perm b.classNames

def ServiceProvider.Reordered (a b : ServiceProvider) : Prop :=
  b = { a with providers := b.providers } ∧ a.providers.Perm b.providers

def JniAccess.Reordered (a b : JniAccess) : Prop :=
  b = { a with classNames := b.classNames } ∧ a.classNames.Perm b.classNames

/-- The second declarations differ from the first by the order of class declarations, services and
native accesses, and of the classes in each of them. -/
structure Declarations.Rearranged (d d' : Declarations) : Prop where
  reflectiveClasses : Rearranges ReflectiveClass.Reordered d.reflectiveClasses d'.reflectiveClasses
  serviceProviders : Rearranges ServiceProvider.Reordered d.serviceProviders d'.serviceProviders
  jniAccess : Rearranges JniAccess.Reordered d.jniAccess d'.jniAccess
  others : d' = { d with
    reflectiveClasses := d'.reflectiveClasses
    serviceProviders := d'.serviceProviders
    jniAccess := d'.jniAccess }

/-- The second plan differs from the first by the order of records and of service descriptors. -/
structure Plan.Rearranged (p p' : Plan) : Prop where
  classes : p.classes.records.Perm p'.classes.records
  jniClasses : p.jniClasses.Perm p'.jniClasses
  serviceDescriptors : p.serviceDescriptors.Perm p'.serviceDescriptors
  others : p' = { p with
    classes := p'.classes
    jniClasses := p'.jniClasses
    serviceDescriptors := p'.serviceDescriptors }

/-! ### Class tables -/

theorem ClassTable.nodup_records (t : ClassTable) : t.records.Nodup := t.nodup.of_map _

/-- Tables that have the same record of each class have the same records. -/
theorem ClassTable.perm_records {t t' : ClassTable} (same : ∀ c, t.record? c = t'.record? c) :
    t.records.Perm t'.records := by
  rw [List.perm_ext_iff_of_nodup t.nodup_records t'.nodup_records]
  intro r
  have here := t.record?_eq_some_iff r.className r
  have there := t'.record?_eq_some_iff r.className r
  rw [same] at here
  rw [and_iff_left rfl] at here there
  exact here.symm.trans there

namespace Declarations.Rearranged

variable {d d' : Declarations} (h : d.Rearranged d')

include h

theorem additions : d.additions.Perm d'.additions := by
  have fields : d'.reflectiveFields = d.reflectiveFields := by rw [h.others]
  have methods : d'.reflectiveMethods = d.reflectiveMethods := by rw [h.others]
  unfold Declarations.additions
  rw [fields, methods]
  refine ((List.Perm.append_right _ ?_).append_right _).append ?_
  · refine h.reflectiveClasses.flatMap fun a b same => ?_
    have capabilities : b.capabilities = a.capabilities := by rw [same.1]; rfl
    unfold ReflectiveClass.additions
    rw [capabilities]
    exact same.2.map _
  · exact h.serviceProviders.flatMap fun a b same => same.2.map _

/-- The record of a class does not hang on the order in which it was added to. -/
theorem record? (c : String) :
    (ClassTable.ofDeclarations d).record? c = (ClassTable.ofDeclarations d').record? c := by
  have own : (d.additionsFor c).Perm (d'.additionsFor c) := h.additions.filter _
  have mentioned : c ∈ d.classMentions ↔ c ∈ d'.classMentions := by
    rw [← className_additions, ← className_additions]
    exact (h.additions.map _).mem_iff
  rw [ClassTable.record?_ofDeclarations, ClassTable.record?_ofDeclarations]
  simp only [mentioned]
  rw [ClassRecord.foldl_add_of_perm _ own]
  · rw [d.constructors_additionsFor, d'.constructors_additionsFor, Declarations.methodsOf, h.others]
    rfl
  · rw [d.methods_additionsFor, d'.methods_additionsFor, Declarations.methodsOf, h.others]
    rfl
  · rw [d.fields_additionsFor, d'.fields_additionsFor, Declarations.fieldsOf, h.others]
    rfl

end Declarations.Rearranged

/-- Rearranged declarations come to a rearranged plan. -/
theorem Plan.ofDeclarations_rearranged {d d' : Declarations} (h : d.Rearranged d') :
    (ofDeclarations d).Rearranged (ofDeclarations d') where
  classes := ClassTable.perm_records h.record?
  jniClasses := by
    refine h.jniAccess.flatMap fun a b same => ?_
    have records : b.records = b.classNames.map fun className =>
        { className, constructors := a.constructors, methods := a.methods, fields := a.fields,
          finalFieldsWritable := a.finalFieldsWritable } := by rw [same.1]; rfl
    rw [records]
    exact same.2.map _
  serviceDescriptors := by
    change (d.serviceProviders.map _).Perm (d'.serviceProviders.map _)
    rw [List.map_eq_flatMap, List.map_eq_flatMap]
    exact h.serviceProviders.flatMap fun a b same => by rw [same.1]; exact .refl _
  others := by
    unfold ofDeclarations
    rw [h.others]

end Registrar
