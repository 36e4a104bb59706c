import ChannelHandshake.Manifest

/-!
# Version tests

A channel decides about the version of its peer by a test. The test gets the version `absent` for
a peer without the channel; of the tests here only `missingOr`, `any` and `isAbsent` accept that
whatever they are given.
-/

namespace ChannelHandshake

/-- Decides whether a peer's version is acceptable. -/
abbrev VersionTest := String → Bool

namespace VersionTest

/-- Accepts one version. -/
def exactly (version : String) : VersionTest :=
  (· == version)

/-- Accepts the versions of a list. -/
def oneOf (versions : List String) : VersionTest :=
  fun v => versions.any (· == v)

/-- Accepts one version, and a peer without the channel. -/
def missingOr (version : String) : VersionTest :=
  fun v => v == absent || v == version

/-- Accepts every version, and a peer without the channel. -/
def any : VersionTest :=
  fun _ => true

/-- Accepts nothing. -/
def never : VersionTest :=
  fun _ => false

/-- Accepts only a peer without the channel. -/
def isAbsent : VersionTest :=
  (· == absent)

end VersionTest

end ChannelHandshake
