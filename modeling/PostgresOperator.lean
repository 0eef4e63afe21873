import PostgresOperator.Cluster.Objects
import PostgresOperator.Cluster.Env
import PostgresOperator.Cluster.Compare
import PostgresOperator.Cluster.Volumes
import PostgresOperator.Cluster.ResizeOutput
import PostgresOperator.Cluster.PodEvents
import PostgresOperator.Cluster.Users
import PostgresOperator.Cluster.Resources
import PostgresOperator.Cluster.Create
import PostgresOperator.Cluster.Update
import PostgresOperator.Cluster.Runs
import PostgresOperator.Cluster.VolumeStore
import PostgresOperator.Cluster.Unchanged
import PostgresOperator.Cluster.StatusHistory
