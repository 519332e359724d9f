import KernelJob.Proofs.Artifact.Apart
import KernelJob.Proofs.Artifact.Opened
import KernelJob.Proofs.Base64
import KernelJob.Proofs.Source.Notebook

/-! # Pictures are saved bit for bit

A picture comes in base 64, as one text or in pieces, and mostly broken into lines. If the file for
it can be opened, it holds the bytes that were encoded, and no others.

* **`ArtifactStore.OffersPicture`** — data of which a store takes a picture.
* **`Archive.read_picture`** — the file for a picture holds its bytes. -/

namespace KernelJob

namespace ArtifactStore

variable {data v payload : Json} {type : ArtifactType} {bytes : List UInt8} {t : Text}

/-- **Data of which a store takes a picture**: a PNG, or else a JPEG. -/
inductive OffersPicture : Json → ArtifactType → Json → Prop
  | png {fields : Fields} {v : Json} (haspng : fields.get? "image/png" = some v) :
      OffersPicture (.object fields) ⟨"image/png", ".png", true⟩ v
  | jpeg {fields : Fields} {v : Json} (nopng : fields.get? "image/png" = none)
      (hasjpeg : fields.get? "image/jpeg" = some v) :
      OffersPicture (.object fields) ⟨"image/jpeg", ".jpg", true⟩ v

namespace OffersPicture

/-- A picture is in base 64. -/
theorem isBase64 (h : OffersPicture data type v) : type.isBase64 = true := by
  cases h with
  | png => rfl
  | jpeg => rfl

/-- A picture is preferred to whatever else there is. -/
theorem offer? (h : OffersPicture data type v) (hjoined : v.joined = .ok payload) :
    offer? data = some (type, payload) := by
  refine offer?_eq_some_iff.mpr ⟨v, ?_, hjoined⟩
  cases h with
  | png haspng =>
    rw [preferred_object, artifactTypes, List.findSome?_cons, haspng]
    rfl
  | jpeg nopng hasjpeg =>
    rw [preferred_object, artifactTypes, List.findSome?_cons, nopng, List.findSome?_cons, hasjpeg]
    rfl

end OffersPicture

/-- The content of a text in base 64 is what it is decoded as. -/
theorem content_of_decode (hbase : type.isBase64 = true) (h : Base64.decode t = .ok bytes) :
    content type (.text t) = .ok (.ok bytes) := by
  rw [content, if_pos hbase, h]
  rfl

end ArtifactStore

open ArtifactStore

namespace Archive

variable {a : Archive} {c : SaveCall} {type : ArtifactType} {v : Json} {bytes : List UInt8}
  {t : Text}

/-- **Pictures are saved bit for bit**: whatever the bytes are, however their encoding is broken up
by foreign signs of ASCII, and whether it comes as one text or in pieces, the call gives the path
of a file that holds just these bytes. -/
theorem read_picture (hoffers : OffersPicture c.data type v) (hspells : v.Spells t)
    (hencodes : Base64.Sprinkled (Base64.encode bytes) t)
    (hopens : a.files.Opens (a.nextPath c.unit type)) :
    a.result c = .ok (some (a.nextPath c.unit type)) ∧
      (a.save c).files.read (a.nextPath c.unit type) = .ok bytes := by
  have hjoined : v.joined = .ok (.text t) :=
    Json.joined_of_sourceText? (Json.sourceText?_eq_some_iff.mpr hspells)
  have hcontent : content type (.text t) = .ok (.ok bytes) :=
    content_of_decode hoffers.isBase64 (Base64.decode_of_sprinkled hencodes)
  obtain ⟨hresult, hfiles, -⟩ := save_of_offer a (hoffers.offer? hjoined)
  obtain ⟨made, place, hopens⟩ := hopens
  rw [writeAt_of_opensAt hopens, hcontent] at hresult hfiles
  refine ⟨hresult, ?_⟩
  rw [hfiles]
  exact hopens.read_put bytes

/-- A JPEG of a single byte, in two pieces with a line break in the first of them. -/
def jpegInPieces : SaveCall := ⟨1, .object [("image/jpeg", .list [.text "T\nQ=", .text "="])]⟩

/-- The file for a picture in pieces holds its byte. -/
theorem read_picture_jpegInPieces :
    (save ⟨.new (.ofText "/out") "t", {}⟩ jpegInPieces).files.read
      (.ofText "/out/t/unit-1-1.jpg") = .ok [77] := by
  have hforeign : Base64.IsForeign '\n' := ⟨by decide, by decide⟩
  have hsprinkled : Base64.Sprinkled (Base64.encode [77]) "T\nQ==" :=
    .keep _ (.insert rfl hforeign (.keep _ (.keep _ (.keep _ .nil))))
  have hopens : FileTree.Opens {} (.ofText "/out/t/unit-1-1.jpg") := ⟨_, _, rfl, rfl⟩
  exact (read_picture (c := jpegInPieces) (.jpeg rfl rfl) (.lines ["T\nQ=", "="]) hsprinkled
    hopens).2

end Archive

end KernelJob
