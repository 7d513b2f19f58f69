import Scenery.Geometry.Basic

/-!
# Lights

A lamp of the document becomes a light in its group.  A light holds what its lamp
declares, with the angle of its cone in radians.  Spot lights point at their
target and directional lights at the origin of their group.
-/

namespace Scenery

/-- What a light lights. -/
inductive LightKind (α : Type) where
  /-- All around. -/
  | point (distance decay : α)
  /-- A cone of a half-angle in radians toward a target. -/
  | spot (distance decay : α) (angle penumbra : α) (target : Vec3 α)
  /-- Everywhere in one direction, with shadows within a frame. -/
  | directional (left right bottom top : α)

/-- A light in its group. -/
structure Light (α : Type) where
  /-- What it lights. -/
  kind : LightKind α
  /-- The color of its light. -/
  color : Color α
  /-- How bright it is. -/
  intensity : α
  /-- Where it is. -/
  position : Vec3 α
  /-- Whether it is on. -/
  enabled : Bool
  /-- Whether its light casts shadows. -/
  castShadow : Bool
  /-- How far its shadows reach. -/
  shadowFar : α
  /-- The width of its shadow map. -/
  shadowMapSize : UInt32

variable {α : Type}

/-- The direction a light points in, if it has one. -/
def Light.direction? [Scalar α] (light : Light α) : Option (Vec3 α) :=
  match light.kind with
  | .point .. => none
  | .spot _ _ _ _ target => (target - light.position).normalize?
  | .directional .. => (Vec3.zero - light.position).normalize?

/-- What a lamp lights, with its angle in radians. -/
def LampKind.toLight [Angular α] : LampKind α → LightKind α
  | .point distance decay => .point distance decay
  | .spot distance decay angle penumbra target =>
      .spot distance decay (Angular.toRadians angle) penumbra target
  | .directional left right bottom top => .directional left right bottom top

/-- The light of a lamp.  A lamp that is off has one too. -/
def Lamp.light [Angular α] (lamp : Lamp α) : Light α where
  kind := lamp.kind.toLight
  color := lamp.color
  intensity := lamp.intensity
  position := lamp.position
  enabled := lamp.enabled
  castShadow := lamp.castShadow
  shadowFar := lamp.shadowFar
  shadowMapSize := lamp.shadowMapSize

end Scenery
