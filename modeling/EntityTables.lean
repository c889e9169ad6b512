import EntityTables.Log.Generation
import EntityTables.Model.Format
import EntityTables.Proofs.Emission.Isolation
import EntityTables.Proofs.Generation.ColumnTypes
import EntityTables.Proofs.Generation.Extension
import EntityTables.Proofs.Generation.Order
import EntityTables.Proofs.Generation.Report
import EntityTables.Proofs.JoinTable.Columns
import EntityTables.Proofs.JoinTable.Sides
import EntityTables.Proofs.JoinTable.Uniqueness
import EntityTables.Proofs.Model.Reading
import EntityTables.Proofs.Model.RoundTrip
import EntityTables.Proofs.Reference.Externals
import EntityTables.Proofs.Reference.Kinds
import EntityTables.Proofs.Wrapper.Sharing
import EntityTables.Proofs.Wrapper.Soundness
import EntityTables.Proofs.Generation.Objects
import EntityTables.Proofs.Generation.Paths
import EntityTables.Proofs.Generation.Relations
import EntityTables.Proofs.Reference.Identity
import EntityTables.Proofs.Reference.KeyedTargets
import EntityTables.Proofs.Emission.Decimals
import EntityTables.Proofs.Kotlin.Imports
import EntityTables.Proofs.Settings.Loading
import EntityTables.Proofs.Wrapper.Constructors
import EntityTables.Proofs.JoinTable.DefaultNames
import EntityTables.Proofs.Kotlin.Recipes
import EntityTables.Proofs.Kotlin.Uses
import EntityTables.Proofs.Kotlin.Paths
import EntityTables.Proofs.Kotlin.TypeNames
import EntityTables.Proofs.Wrapper.Registration
