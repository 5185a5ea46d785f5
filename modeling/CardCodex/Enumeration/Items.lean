/-
Module: CardCodex.Enumeration.Items
Purpose: The ten enumerations of the rules: their items, names and values.
Main exports: GameTag, BlockType, CardType, ResourceType, Requirement, Tribe, Zone, Step,
  OptionType, Category, Tribe.playable
-/
import CardCodex.Enumeration.Basic

namespace CardCodex

/-- Attributes that an entity of the game can carry. -/
inductive GameTag where
  | invalid
  | power
  | health
  | tribe
  | cardType
  | requirement
  | controller
  | resourceType
  | morale
  | supply
  | battle
  | name
  | text
  | territory
  | maxHandSize
  | step
  | nextStep
  | cardId
  | entityId
  | zone
  | damage
  | owner
  | declaredAttack
  | declaredIntercept
  | muddle
  | aftermath
  | sting
  | corrupt
  | inspire
  | emerge
  | spy
  | inform
  | conduit
  | toxic
  | wisdom
  | renew
  | fury
  | swarm
  | heroic
deriving DecidableEq, Repr

instance : Enumeration GameTag where
  id := .gameTag
  items :=
    [.invalid, .power, .health, .tribe, .cardType, .requirement, .controller, .resourceType,
      .morale, .supply, .battle, .name, .text, .territory, .maxHandSize, .step, .nextStep,
      .cardId, .entityId, .zone, .damage, .owner, .declaredAttack, .declaredIntercept, .muddle,
      .aftermath, .sting, .corrupt, .inspire, .emerge, .spy, .inform, .conduit, .toxic, .wisdom,
      .renew, .fury, .swarm, .heroic]
  itemName
    | .invalid => "INVALID"
    | .power => "POWER"
    | .health => "HEALTH"
    | .tribe => "TRIBE"
    | .cardType => "CARD_TYPE"
    | .requirement => "REQUIREMENT"
    | .controller => "CONTROLLER"
    | .resourceType => "RESOURCE_TYPE"
    | .morale => "MORALE"
    | .supply => "SUPPLY"
    | .battle => "BATTLE"
    | .name => "NAME"
    | .text => "TEXT"
    | .territory => "TERRITORY"
    | .maxHandSize => "MAX_HAND_SIZE"
    | .step => "STEP"
    | .nextStep => "NEXT_STEP"
    | .cardId => "CARD_ID"
    | .entityId => "ENTITY_ID"
    | .zone => "ZONE"
    | .damage => "DAMAGE"
    | .owner => "OWNER"
    | .declaredAttack => "DECLARED_ATTACK"
    | .declaredIntercept => "DECLARED_INTERCEPT"
    | .muddle => "MUDDLE"
    | .aftermath => "AFTERMATH"
    | .sting => "STING"
    | .corrupt => "CORRUPT"
    | .inspire => "INSPIRE"
    | .emerge => "EMERGE"
    | .spy => "SPY"
    | .inform => "INFORM"
    | .conduit => "CONDUIT"
    | .toxic => "TOXIC"
    | .wisdom => "WISDOM"
    | .renew => "RENEW"
    | .fury => "FURY"
    | .swarm => "SWARM"
    | .heroic => "HEROIC"
  value
    | .invalid => -1
    | .power => 1
    | .health => 2
    | .tribe => 3
    | .cardType => 4
    | .requirement => 5
    | .controller => 6
    | .resourceType => 7
    | .morale => 8
    | .supply => 9
    | .battle => 10
    | .name => 11
    | .text => 12
    | .territory => 13
    | .maxHandSize => 14
    | .step => 15
    | .nextStep => 16
    | .cardId => 17
    | .entityId => 18
    | .zone => 19
    | .damage => 20
    | .owner => 21
    | .declaredAttack => 22
    | .declaredIntercept => 23
    | .muddle => 100
    | .aftermath => 101
    | .sting => 102
    | .corrupt => 103
    | .inspire => 104
    | .emerge => 105
    | .spy => 106
    | .inform => 107
    | .conduit => 108
    | .toxic => 109
    | .wisdom => 110
    | .renew => 111
    | .fury => 112
    | .swarm => 113
    | .heroic => 114
  mem_items := by intro item; cases item <;> decide
  names_nodup := by decide
  values_nodup := by decide
  names_canonical := by decide

/-- Kinds of action block in the history of a game. -/
inductive BlockType where
  | attack
  | power
  | trigger
  | deaths
  | play
deriving DecidableEq, Repr

instance : Enumeration BlockType where
  id := .blockType
  items :=
    [.attack, .power, .trigger, .deaths, .play]
  itemName
    | .attack => "ATTACK"
    | .power => "POWER"
    | .trigger => "TRIGGER"
    | .deaths => "DEATHS"
    | .play => "PLAY"
  value
    | .attack => 1
    | .power => 3
    | .trigger => 5
    | .deaths => 6
    | .play => 7
  mem_items := by intro item; cases item <;> decide
  names_nodup := by decide
  values_nodup := by decide
  names_canonical := by decide

/-- Kinds of card. -/
inductive CardType where
  | invalid
  | game
  | player
  | unit
  | spell
  | effect
  | token
deriving DecidableEq, Repr

instance : Enumeration CardType where
  id := .cardType
  items :=
    [.invalid, .game, .player, .unit, .spell, .effect, .token]
  itemName
    | .invalid => "INVALID"
    | .game => "GAME"
    | .player => "PLAYER"
    | .unit => "UNIT"
    | .spell => "SPELL"
    | .effect => "EFFECT"
    | .token => "TOKEN"
  value
    | .invalid => 0
    | .game => 1
    | .player => 2
    | .unit => 3
    | .spell => 4
    | .effect => 5
    | .token => 6
  mem_items := by intro item; cases item <;> decide
  names_nodup := by decide
  values_nodup := by decide
  names_canonical := by decide

/-- Resources a player gains and spends. -/
inductive ResourceType where
  | invalid
  | morale
  | supply
deriving DecidableEq, Repr

instance : Enumeration ResourceType where
  id := .resourceType
  items :=
    [.invalid, .morale, .supply]
  itemName
    | .invalid => "INVALID"
    | .morale => "MORALE"
    | .supply => "SUPPLY"
  value
    | .invalid => 0
    | .morale => 1
    | .supply => 2
  mem_items := by intro item; cases item <;> decide
  names_nodup := by decide
  values_nodup := by decide
  names_canonical := by decide

/-- What a card must be aimed at. -/
inductive Requirement where
  | invalid
  | unitTarget
  | alliedTarget
  | enemyTarget
deriving DecidableEq, Repr

instance : Enumeration Requirement where
  id := .requirement
  items :=
    [.invalid, .unitTarget, .alliedTarget, .enemyTarget]
  itemName
    | .invalid => "INVALID"
    | .unitTarget => "REQ_UNIT_TARGET"
    | .alliedTarget => "REQ_ALLIED_TARGET"
    | .enemyTarget => "REQ_ENEMY_TARGET"
  value
    | .invalid => -1
    | .unitTarget => 0
    | .alliedTarget => 1
    | .enemyTarget => 2
  mem_items := by intro item; cases item <;> decide
  names_nodup := by decide
  values_nodup := by decide
  names_canonical := by decide

/-- Tribes a card can belong to. -/
inductive Tribe where
  | invalid
  | slug
  | octopi
  | mole
  | drake
  | eel
  | aard
  | pheasant
deriving DecidableEq, Repr

instance : Enumeration Tribe where
  id := .tribe
  items :=
    [.invalid, .slug, .octopi, .mole, .drake, .eel, .aard, .pheasant]
  itemName
    | .invalid => "INVALID"
    | .slug => "SLUG"
    | .octopi => "OCTOPI"
    | .mole => "MOLE"
    | .drake => "DRAKE"
    | .eel => "EEL"
    | .aard => "AARD"
    | .pheasant => "PHEASANT"
  value
    | .invalid => 0
    | .slug => 1
    | .octopi => 2
    | .mole => 3
    | .drake => 4
    | .eel => 5
    | .aard => 6
    | .pheasant => 7
  mem_items := by intro item; cases item <;> decide
  names_nodup := by decide
  values_nodup := by decide
  names_canonical := by decide

/-- Places where a card can be. -/
inductive Zone where
  | invalid
  | play
  | hand
  | deck
  | discard
  | setAside
  | removedFromGame
deriving DecidableEq, Repr

instance : Enumeration Zone where
  id := .zone
  items :=
    [.invalid, .play, .hand, .deck, .discard, .setAside, .removedFromGame]
  itemName
    | .invalid => "INVALID"
    | .play => "PLAY"
    | .hand => "HAND"
    | .deck => "DECK"
    | .discard => "DISCARD"
    | .setAside => "SET_ASIDE"
    | .removedFromGame => "REMOVED_FROM_GAME"
  value
    | .invalid => 0
    | .play => 1
    | .hand => 2
    | .deck => 3
    | .discard => 4
    | .setAside => 5
    | .removedFromGame => 6
  mem_items := by intro item; cases item <;> decide
  names_nodup := by decide
  values_nodup := by decide
  names_canonical := by decide

/-- The steps of a turn.  Units are unflipped, a resource is gained, attackers and
interceptors are named, combat resolves, and cards are played from hand. -/
inductive Step where
  | invalid
  | unflip
  | resource
  | declare
  | response
  | combat
  | play
deriving DecidableEq, Repr

instance : Enumeration Step where
  id := .step
  items :=
    [.invalid, .unflip, .resource, .declare, .response, .combat, .play]
  itemName
    | .invalid => "INVALID"
    | .unflip => "UNFLIP"
    | .resource => "RESOURCE"
    | .declare => "DECLARE"
    | .response => "RESPONSE"
    | .combat => "COMBAT"
    | .play => "PLAY"
  value
    | .invalid => 0
    | .unflip => 1
    | .resource => 2
    | .declare => 3
    | .response => 4
    | .combat => 5
    | .play => 6
  mem_items := by intro item; cases item <;> decide
  names_nodup := by decide
  values_nodup := by decide
  names_canonical := by decide

/-- Kinds of choice offered to a player. -/
inductive OptionType where
  | invalid
  | done
  | declare
  | flip
  | play
deriving DecidableEq, Repr

instance : Enumeration OptionType where
  id := .optionType
  items :=
    [.invalid, .done, .declare, .flip, .play]
  itemName
    | .invalid => "INVALID"
    | .done => "DONE"
    | .declare => "DECLARE"
    | .flip => "FLIP"
    | .play => "PLAY"
  value
    | .invalid => 0
    | .done => 1
    | .declare => 2
    | .flip => 3
    | .play => 4
  mem_items := by intro item; cases item <;> decide
  names_nodup := by decide
  values_nodup := by decide
  names_canonical := by decide

/-- Shapes of the value of a tag.  Only `ENUM`, `STRING`, `NUMBER`, `ENTITY` and
`PLAYER` are the shape of a tag; the other items are reserved. -/
inductive Category where
  | locString
  | unknown
  | bool
  | number
  | counter
  | entity
  | player
  | team
  | entityDefinition
  | string
  | enum
deriving DecidableEq, Repr

instance : Enumeration Category where
  id := .category
  items :=
    [.locString, .unknown, .bool, .number, .counter, .entity, .player, .team, .entityDefinition,
      .string, .enum]
  itemName
    | .locString => "LOCSTRING"
    | .unknown => "UNKNOWN"
    | .bool => "BOOL"
    | .number => "NUMBER"
    | .counter => "COUNTER"
    | .entity => "ENTITY"
    | .player => "PLAYER"
    | .team => "TEAM"
    | .entityDefinition => "ENTITY_DEFINITION"
    | .string => "STRING"
    | .enum => "ENUM"
  value
    | .locString => -2
    | .unknown => 0
    | .bool => 1
    | .number => 2
    | .counter => 3
    | .entity => 4
    | .player => 5
    | .team => 6
    | .entityDefinition => 7
    | .string => 8
    | .enum => 9
  mem_items := by intro item; cases item <;> decide
  names_nodup := by decide
  values_nodup := by decide
  names_canonical := by decide

/-- The tribes that a card can be played for: all but the invalid one. -/
def Tribe.playable : List Tribe :=
  [.slug, .octopi, .mole, .drake, .eel, .aard, .pheasant]

end CardCodex
