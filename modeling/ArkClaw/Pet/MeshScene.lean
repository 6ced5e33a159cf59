import ArkClaw.Library.Text
import ArkClaw.Pet.RenderLayout

/-!
# Mesh scenes

The runtime turns the draw commands of a native frame into a scene in the viewport, and a scene is validated before it
is published. Coordinates are exact rationals, so none is infinite.
-/

namespace ArkClaw.Pet

open ArkClaw.Library

inductive PetMeshBlendMode where
  | normalStraight | additive | multiply | screen
deriving DecidableEq, Repr

inductive PetMeshValidationCode where
  | invalidViewport | invalidBaseline | invalidVertex | invalidIndex | invalidClip | missingTexture
deriving DecidableEq, Repr

/-- What stops a native frame from becoming a scene. -/
inductive MeshFailure where
  | validation (code : PetMeshValidationCode)
  | frame
deriving DecidableEq, Repr

structure PetMeshColor where
  red : Int := 255
  green : Int := 255
  blue : Int := 255
  alpha : Int := 255
deriving DecidableEq

structure PetMeshVertex where
  position : Point
  u : Rat
  v : Rat
  color : PetMeshColor := {}
deriving DecidableEq

structure PetMeshDrawCommand where
  textureId : String
  vertices : List PetMeshVertex
  triangleIndices : List Int
  drawOrder : Int
  blendMode : PetMeshBlendMode := .normalStraight
  clipPolygon : Option (List Point) := none
deriving DecidableEq

/-- The identifier of the one page the renderer decodes. -/
def textureId : String := "spine38-page-0"

/-- The decoded texture page. A renderer whose page has other sizes is never initialized. -/
structure PetMeshTextureData where
  textureId : String := ArkClaw.Pet.textureId
  width : Nat
  height : Nat
  width_ok : 0 < width ∧ width ≤ 4096
  height_ok : 0 < height ∧ height ≤ 4096
deriving DecidableEq

structure PetMeshScene where
  width : Int
  height : Int
  footBaselineY : Rat
  textures : List PetMeshTextureData
  drawCommands : List PetMeshDrawCommand
deriving DecidableEq

namespace PetMeshScene

/-! ## Validation -/

def validColor (color : PetMeshColor) : Bool :=
  [color.red, color.green, color.blue, color.alpha].all fun channel => decide (0 ≤ channel ∧ channel ≤ 255)

/-- The cross product of two edges of a polygon in a row. -/
def cross (first second third : Point) : Rat :=
  (second.x - first.x) * (third.y - second.y) - (second.y - first.y) * (third.x - second.x)

/-- All corners turn the same way, and none is straight. -/
def convex (points : List Point) : Bool :=
  let corners := (List.range points.length).map fun i =>
    match points[i]?, points[(i + 1) % points.length]?, points[(i + 2) % points.length]? with
    | some first, some second, some third => cross first second third
    | _, _, _ => 0
  (corners.all fun corner => !isCloseWithin (1 / 1000000000) corner 0)
    && ((corners.all fun corner => decide (0 < corner)) || corners.all fun corner => decide (¬0 < corner))

def validClip (scene : PetMeshScene) (points : List Point) : Bool :=
  decide (3 ≤ points.length)
    && (points.all fun point => decide (0 ≤ point.x ∧ 0 ≤ point.y ∧ point.x ≤ scene.width ∧ point.y ≤ scene.height))
    && convex points

/-- The triangles of a command are whole and name its vertices. -/
def validIndices (indices : List Int) (vertexCount : Nat) : Bool :=
  decide (indices.length ≠ 0) && decide (indices.length % 3 = 0)
    && indices.all fun index => decide (0 ≤ index ∧ index < vertexCount)

def validateCommand (scene : PetMeshScene) (command : PetMeshDrawCommand) : Except PetMeshValidationCode Unit :=
  if command.textureId ∉ scene.textures.map (·.textureId) then .error .missingTexture
  else if command.vertices.length < 3 then .error .invalidVertex
  else if !command.vertices.all fun vertex => validColor vertex.color then .error .invalidVertex
  else if !validIndices command.triangleIndices command.vertices.length then .error .invalidIndex
  else if !command.clipPolygon.all (validClip scene) then .error .invalidClip
  else .ok ()

/-- The viewport and the baseline in it. -/
def validateViewport (scene : PetMeshScene) : Except PetMeshValidationCode Unit :=
  if scene.width ≤ 0 ∨ scene.height ≤ 0 ∨ 4096 < scene.width ∨ 4096 < scene.height then .error .invalidViewport
  else if ¬(0 ≤ scene.footBaselineY ∧ scene.footBaselineY ≤ scene.height) then .error .invalidBaseline
  else .ok ()

/-- Validate only generic mesh invariants. -/
def validate (scene : PetMeshScene) : Except PetMeshValidationCode Unit := do
  validateViewport scene
  scene.drawCommands.forM (validateCommand scene)

end PetMeshScene

/-! ## Native frames -/

structure Spine38Vertex where
  x : Rat
  y : Rat
  u : Rat
  v : Rat
  r : Int
  g : Int
  b : Int
  a : Int
deriving DecidableEq

inductive Spine38BlendMode where
  | normal | additive | multiply | screen
deriving DecidableEq, Repr

structure Spine38DrawCommand where
  vertices : List Spine38Vertex
  indices : List Int
  texturePage : Int
  blendMode : Spine38BlendMode
  drawOrder : Int
deriving DecidableEq

/-- The fixed transform of the runtime's y-up space to a y-down viewport. -/
@[ext] structure Spine38ViewportTransform where
  scale : Rat
  originX : Rat
  originY : Rat
  viewport : Size
  footBaselineY : Rat
  scale_pos : 0 < scale

instance : DecidableEq Spine38ViewportTransform := fun _ _ => decidable_of_iff _ Spine38ViewportTransform.ext_iff.symm

namespace Spine38ViewportTransform

def point (t : Spine38ViewportTransform) (x y : Rat) : Point :=
  { x := t.originX + x * t.scale, y := t.originY - y * t.scale }

end Spine38ViewportTransform

namespace Spine38Runtime

def blendMode : Spine38BlendMode → PetMeshBlendMode
  | .normal => .normalStraight
  | .additive => .additive
  | .multiply => .multiply
  | .screen => .screen

/-- A whole number of pixels that a viewport can have. -/
def logicalDimension (value : Rat) : Except MeshFailure Int :=
  if value.den ≠ 1 then .error .frame
  else if value.num ≤ 0 ∨ 4096 < value.num then .error .frame
  else .ok value.num

def meshVertex (transform : Spine38ViewportTransform) (vertex : Spine38Vertex) : PetMeshVertex where
  position := transform.point vertex.x vertex.y
  u := vertex.u
  v := vertex.v
  color := { red := vertex.r, green := vertex.g, blue := vertex.b, alpha := vertex.a }

def meshCommand (transform : Spine38ViewportTransform) (texture : PetMeshTextureData) (command : Spine38DrawCommand) :
    Except MeshFailure PetMeshDrawCommand :=
  if command.texturePage ≠ 0 then .error .frame
  else .ok {
    textureId := texture.textureId
    vertices := command.vertices.map (meshVertex transform)
    triangleIndices := command.indices
    drawOrder := command.drawOrder
    blendMode := blendMode command.blendMode }

/-- Convert one native frame without changing its draw order. -/
def meshScene (commands : List Spine38DrawCommand) (transform : Spine38ViewportTransform)
    (texture : PetMeshTextureData) : Except MeshFailure PetMeshScene := do
  let drawCommands ← commands.mapM (meshCommand transform texture)
  let width ← logicalDimension transform.viewport.width
  let height ← logicalDimension transform.viewport.height
  let scene : PetMeshScene :=
    { width, height, footBaselineY := transform.footBaselineY, textures := [texture], drawCommands }
  match scene.validate with
  | .error code => .error (.validation code)
  | .ok () => return scene

end Spine38Runtime

end ArkClaw.Pet
